import Mathlib.Data.List.Forall2
import Mathlib.Data.List.Infix
import GrammarPackages.SearchPath
import GrammarPackages.Proofs.PathNormal
import GrammarPackages.Proofs.Respelling
import GrammarPackages.Proofs.RootMerge

namespace GrammarPackages

namespace Path

variable {a : Option Component} {p : Path} {s : List Char}

/-- What a path goes through, read upwards: all of its components, then without the last one, and
so on down to none, or to the root where it starts there. -/
def trail (p : Path) : List (List Component) :=
  (p.components.inits.filter (fun q ↦ p.IsAbsolute → q ≠ [])).reverse

theorem inits_concat (q : List Component) (c : Component) :
    (q ++ [c]).inits = q.inits ++ [q ++ [c]] := by
  simp [List.inits_append]

theorem pairwise_inits (q : List Component) :
    q.inits.Pairwise (fun r r' ↦ r <+: r' ∧ r.length < r'.length) := by
  rw [List.pairwise_iff_getElem]
  intro i j hi hj hij
  rw [List.length_inits] at hj
  rw [List.getElem_inits, List.getElem_inits, List.length_take, List.length_take]
  constructor
  · exact List.take_prefix_take_left (by omega)
  · omega

/-- The segments stand in reverse, as `above` takes them. -/
theorem map_components_above {l : List (List Char)} (h : Behind a l.reverse) :
    (a.toList ++ steps l.reverse) :: (above a l).map components =
      ((a.toList ++ steps l.reverse).inits.filter (fun q ↦ a = some .root → q ≠ [])).reverse := by
  induction l with
  | nil =>
    rcases h.anchor_eq with rfl | rfl | rfl
    · rfl
    · rfl
    · rfl
  | cons s l ih =>
    rw [List.reverse_cons] at h
    rw [List.reverse_cons, steps_append]
    by_cases hs : Blank s
    · rw [steps_cons_of_blank hs, steps_nil, List.append_nil, above, if_pos hs]
      exact ih h.of_append
    · rw [steps_cons_of_not_blank hs, steps_nil, ← List.append_assoc, above, if_neg hs,
        List.map_cons, components_spell_above h.of_append, ih h.of_append, inits_concat,
        List.filter_append, List.reverse_append]
      simp

/-- The ancestors of a path are what it goes through. -/
theorem map_components_ancestors (p : Path) : p.ancestors.map components = p.trail := by
  by_cases hp : p.chars = []
  · obtain ⟨chars⟩ := p
    obtain rfl : chars = [] := hp
    rfl
  · have hbehind : Behind p.anchor p.body.reverse.reverse := by
      rw [List.reverse_reverse]
      exact behind_body hp
    have habove := map_components_above hbehind
    rw [List.reverse_reverse, ← components_eq_body] at habove
    rw [ancestors, List.map_cons, habove, trail]
    simp only [isAbsolute_iff_anchor]

example : (Path.ofString "./a/..").trail =
    [[.here, .name ['a'], .up], [.here, .name ['a']], [.here], []] := by decide +kernel

theorem pairwise_trail (p : Path) :
    p.trail.Pairwise (fun q r ↦ r <+: q ∧ r.length < q.length) := by
  rw [trail, List.pairwise_reverse]
  exact (pairwise_inits p.components).filter _

theorem fileName?_ne_some_iff :
    p.fileName? ≠ some s ↔ p.components.getLast? ≠ some (.name s) :=
  not_congr fileName?_eq_some_iff

end Path

namespace SearchPath

open GrammarPackages.Path (Component IsPlain)

variable {start : Path} {name : String}

/-- The directories from `start` upwards that are not themselves called `name`. -/
def lookupParents (start : Path) (name : String) : List Path :=
  start.ancestors.filter (fun dir ↦ dir.fileName? ≠ some name.toList)

theorem map_components_lookupParents (start : Path) (name : String) :
    (lookupParents start name).map Path.components =
      start.trail.filter (fun q ↦ q.getLast? ≠ some (.name name.toList)) := by
  rw [lookupParents, ← Path.map_components_ancestors, List.filter_map]
  simp only [Path.fileName?_ne_some_iff]
  rfl

theorem pairwise_lookupParents (start : Path) (name : String) :
    (lookupParents start name).Pairwise (fun p q ↦
      q.components <+: p.components ∧ q.components.length < p.components.length) := by
  have htrail := start.pairwise_trail
  rw [← Path.map_components_ancestors, List.pairwise_map] at htrail
  exact htrail.filter _

theorem components_div_name (hname : IsPlain name.toList) (p : Path) :
    (p / .ofString name).components = p.components ++ [.name name.toList] :=
  Path.components_div_plain p hname

/-- No lookup directory is dropped for being there already. -/
theorem roots_lookups (hname : IsPlain name.toList) :
    (lookups start name).roots = (lookupParents start name).map (· / .ofString name) := by
  apply firsts_eq_self
  rw [List.pairwise_map]
  refine (pairwise_lookupParents start name).imp fun {p q} hpq he ↦ ?_
  have hlength := congrArg List.length (Path.equiv_iff.1 he)
  rw [components_div_name hname, components_div_name hname, List.length_append,
    List.length_append] at hlength
  omega

theorem lookups_equiv (hname : IsPlain name.toList) :
    List.Forall₂ (· ≈ ·) (lookups start name).roots
      ((start.trail.filter (fun q ↦ q.getLast? ≠ some (.name name.toList))).map
        (fun q ↦ Path.ofComponents q / .ofString name)) := by
  rw [roots_lookups hname, ← map_components_lookupParents, List.map_map, List.forall₂_map_left_iff,
    List.forall₂_map_right_iff, List.forall₂_same]
  intro dir _
  apply Path.div_equiv_div
  exact (Path.components_normalize dir).symm

theorem not_doubled_of_mem_lookups (hname : IsPlain name.toList) {r : Path}
    (hr : r ∈ (lookups start name).roots) (front : List Component) :
    r.components ≠ front ++ [.name name.toList, .name name.toList] := by
  rw [roots_lookups hname] at hr
  obtain ⟨dir, hdir, rfl⟩ := List.mem_map.1 hr
  rw [components_div_name hname]
  intro he
  have hfront : dir.components = front ++ [.name name.toList] := by
    have happend : dir.components ++ [.name name.toList] =
        (front ++ [.name name.toList]) ++ [.name name.toList] := by
      rw [he, List.append_assoc]
      rfl
    exact List.append_cancel_right happend
  have hlast : dir.fileName? = some name.toList := by
    rw [Path.fileName?_eq_some_iff, hfront, List.getLast?_concat]
  exact of_decide_eq_true (List.mem_filter.1 hdir).2 hlast

theorem pairwise_lookups (hname : IsPlain name.toList) :
    (lookups start name).roots.Pairwise (fun r r' ↦
      r'.components.dropLast <+: r.components.dropLast ∧
        r'.components.length < r.components.length) := by
  rw [roots_lookups hname, List.pairwise_map]
  refine (pairwise_lookupParents start name).imp fun {p q} hpq ↦ ?_
  rw [components_div_name hname, components_div_name hname, List.dropLast_concat,
    List.dropLast_concat, List.length_append, List.length_append]
  exact ⟨hpq.1, Nat.add_lt_add_right hpq.2 _⟩

/-- Which lookup directories there are from a path upwards, and in what order. -/
structure GoesUpwards (start : Path) (name : String) (roots : List Path) : Prop where
  equiv : List.Forall₂ (· ≈ ·) roots
    ((start.trail.filter (fun q ↦ q.getLast? ≠ some (.name name.toList))).map
      (fun q ↦ Path.ofComponents q / .ofString name))
  none_dropped : roots = (start.ancestors.filter (fun dir ↦
    dir.fileName? ≠ some name.toList)).map (· / .ofString name)
  distinct : roots.Pairwise (fun p q ↦ ¬ p ≈ q)
  not_doubled : ∀ r ∈ roots, ∀ front,
    r.components ≠ front ++ [.name name.toList, .name name.toList]
  nearer_first : roots.Pairwise (fun r r' ↦
    r'.components.dropLast <+: r.components.dropLast ∧
      r'.components.length < r.components.length)

/-- There is one lookup directory for all that a path goes through but the lookup directories
themselves, the nearest first. -/
theorem lookups_go_upwards (start : Path) (name : String) (hname : IsPlain name.toList) :
    GoesUpwards start name (lookups start name).roots where
  equiv := lookups_equiv hname
  none_dropped := roots_lookups hname
  distinct := (lookups start name).distinct
  not_doubled _ hr front := not_doubled_of_mem_lookups hname hr front
  nearer_first := pairwise_lookups hname

theorem lookups_go_upwards_of_nested :
    let start : Path := .ofString "/a//p/p/../b/."
    (IsPlain "p".toList ∧ (lookups start "p").roots =
      [.ofString "/a//p/p/../b/./p", .ofString "/a//p/p/../p", .ofString "/a/p",
        .ofString "/p"]) ∧
    GoesUpwards start "p" (lookups start "p").roots := by
  intro start
  have hname : IsPlain "p".toList := ⟨by decide, by decide, by decide, by decide⟩
  exact ⟨⟨hname, by decide +kernel⟩, lookups_go_upwards start "p" hname⟩

end SearchPath

end GrammarPackages
