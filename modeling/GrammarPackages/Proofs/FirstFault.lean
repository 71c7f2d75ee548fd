import GrammarPackages.Package.Load
import GrammarPackages.Proofs.LoaderHistory
import Mathlib.Data.List.Basic

namespace GrammarPackages

theorem Grammar.resolve_eq_error {files : FileView} {roots : List Path} {path : String}
    {f : Grammar.Fault} (h : Grammar.resolve files roots path = .error f) :
    f = .notFound path := by
  unfold Grammar.resolve at h
  dsimp only at h
  split at h
  · cases h
  · exact (Except.error.inj h).symm

namespace Package

open Manifest (Declaration)

variable {σ γ : Type}

section

variable (files : FileView) (loader : Grammar.Loader σ γ) (roots : List Path)

/-- The call of the loader that a declaration leads to, when its path resolves. -/
def callFor (d : Declaration) : Option (String × Path) :=
  (Grammar.resolve files roots d.path).toOption.map (fun library ↦
    (Grammar.nameOf library, library))

/-- What comes of a declaration once those before it have been loaded. -/
def grammarAfter (state : σ) (before : List Declaration) (d : Declaration) :
    Except Grammar.Fault γ :=
  match callFor files roots d with
  | none => .error (.notFound d.path)
  | some call => loader.answerAfter state (before.filterMap (callFor files roots)) call

/-- What comes of the declaration at a place, if there is one. -/
def grammarAt (state : σ) (ds : List Declaration) (i : Nat) : Option (Except Grammar.Fault γ) :=
  ds[i]?.map (grammarAfter files loader roots state (ds.take i))

/-- The declaration at this place is the first to fail, and this is what is wrong with it. -/
def FailsAt (state : σ) (ds : List Declaration) (i : Nat) (f : Grammar.Fault) : Prop :=
  grammarAt files loader roots state ds i = some (.error f) ∧
    ∀ j < i, ∃ g, grammarAt files loader roots state ds j = some (.ok g)

/-- Every declaration resolves and is loaded. -/
def AllLoad (state : σ) (ds : List Declaration) : Prop :=
  ∀ j < ds.length, ∃ g, grammarAt files loader roots state ds j = some (.ok g)

end

section Step

variable {files : FileView} {loader : Grammar.Loader σ γ} {roots : List Path}
variable {d : Declaration} {ds : List Declaration} {c : String × Path} {state : σ}

theorem callFor_eq_some_iff :
    callFor files roots d = some c ↔
      Grammar.resolve files roots d.path = .ok c.2 ∧ c.1 = Grammar.nameOf c.2 := by
  unfold callFor
  cases Grammar.resolve files roots d.path with
  | error f => simp [Except.toOption]
  | ok library =>
    obtain ⟨name, path⟩ := c
    simp only [Except.toOption, Option.map_some, Option.some.injEq, Prod.mk.injEq,
      Except.ok.injEq]
    constructor
    · intro ⟨hname, hpath⟩
      subst hpath
      exact ⟨rfl, hname.symm⟩
    · intro ⟨hpath, hname⟩
      subst hpath
      exact ⟨hname.symm, rfl⟩

theorem callFor_eq_none_iff :
    callFor files roots d = none ↔
      Grammar.resolve files roots d.path = .error (.notFound d.path) := by
  unfold callFor
  cases h : Grammar.resolve files roots d.path with
  | error f => simp [Except.toOption, Grammar.resolve_eq_error h]
  | ok library => simp [Except.toOption]

theorem grammarAfter_nil_of_call (hc : callFor files roots d = some c) :
    grammarAfter files loader roots state [] d = (loader.load state c.1 c.2).result := by
  simp [grammarAfter, hc]

theorem grammarAfter_nil_eq_ok_iff {g : γ} :
    grammarAfter files loader roots state [] d = .ok g ↔
      ∃ c, callFor files roots d = some c ∧ (loader.load state c.1 c.2).result = .ok g := by
  cases hc : callFor files roots d with
  | none => simp [grammarAfter, hc]
  | some c => simp [grammarAfter, hc]

theorem grammarAt_zero :
    grammarAt files loader roots state (d :: ds) 0 =
      some (grammarAfter files loader roots state [] d) := rfl

theorem grammarAt_succ (hc : callFor files roots d = some c) (i : Nat) :
    grammarAt files loader roots state (d :: ds) (i + 1) =
      grammarAt files loader roots (loader.load state c.1 c.2).state ds i := by
  simp only [grammarAt, List.getElem?_cons_succ, List.take_succ_cons]
  congr 1
  funext e
  simp only [grammarAfter, List.filterMap_cons_some hc, Grammar.Loader.answerAfter_cons]

/-- The first declarations all load if the first of them does, and those behind it do in the
state that it leaves. -/
theorem forall_grammarAt_cons_iff {n : Nat} :
    (∀ j < n + 1, ∃ g, grammarAt files loader roots state (d :: ds) j = some (.ok g)) ↔
      ∃ c g, callFor files roots d = some c ∧ (loader.load state c.1 c.2).result = .ok g ∧
        ∀ j < n, ∃ g, grammarAt files loader roots (loader.load state c.1 c.2).state ds j =
          some (.ok g) := by
  constructor
  · intro h
    obtain ⟨g, hg⟩ := h 0 (Nat.succ_pos n)
    rw [grammarAt_zero, Option.some_inj] at hg
    obtain ⟨c, hc, hl⟩ := grammarAfter_nil_eq_ok_iff.1 hg
    refine ⟨c, g, hc, hl, fun j hj ↦ ?_⟩
    rw [← grammarAt_succ hc]
    exact h (j + 1) (Nat.succ_lt_succ hj)
  · intro ⟨c, g, hc, hl, h⟩ j hj
    cases j with
    | zero => exact ⟨g, by rw [grammarAt_zero, grammarAfter_nil_of_call hc, hl]⟩
    | succ j =>
      rw [grammarAt_succ hc]
      exact h j (Nat.lt_of_succ_lt_succ hj)

theorem failsAt_zero {f : Grammar.Fault} :
    FailsAt files loader roots state (d :: ds) 0 f ↔
      grammarAfter files loader roots state [] d = .error f := by
  simp [FailsAt, grammarAt_zero]

theorem failsAt_succ {i : Nat} {f : Grammar.Fault} :
    FailsAt files loader roots state (d :: ds) (i + 1) f ↔
      ∃ c g, callFor files roots d = some c ∧ (loader.load state c.1 c.2).result = .ok g ∧
        FailsAt files loader roots (loader.load state c.1 c.2).state ds i f := by
  unfold FailsAt
  rw [forall_grammarAt_cons_iff]
  constructor
  · intro ⟨hf, c, g, hc, hl, hbefore⟩
    rw [grammarAt_succ hc] at hf
    exact ⟨c, g, hc, hl, hf, hbefore⟩
  · intro ⟨c, g, hc, hl, hf, hbefore⟩
    rw [grammarAt_succ hc]
    exact ⟨hf, c, g, hc, hl, hbefore⟩

theorem allLoad_cons :
    AllLoad files loader roots state (d :: ds) ↔
      ∃ c g, callFor files roots d = some c ∧ (loader.load state c.1 c.2).result = .ok g ∧
        AllLoad files loader roots (loader.load state c.1 c.2).state ds :=
  forall_grammarAt_cons_iff

theorem FailsAt.lt {i : Nat} {f : Grammar.Fault} (h : FailsAt files loader roots state ds i f) :
    i < ds.length := by
  by_contra hi
  have hnone : ds[i]? = none := List.getElem?_eq_none (Nat.le_of_not_lt hi)
  have hf := h.1
  simp [grammarAt, hnone] at hf

theorem allLoad_or_failsAt (files : FileView) (loader : Grammar.Loader σ γ) (roots : List Path)
    (state : σ) (ds : List Declaration) :
    AllLoad files loader roots state ds ∨ ∃ i f, FailsAt files loader roots state ds i f := by
  induction ds generalizing state with
  | nil => exact .inl (fun j hj ↦ absurd hj (Nat.not_lt_zero j))
  | cons d ds ih =>
    cases hd : grammarAfter files loader roots state [] d with
    | error f => exact .inr ⟨0, f, failsAt_zero.2 hd⟩
    | ok g =>
      obtain ⟨c, hc, hl⟩ := grammarAfter_nil_eq_ok_iff.1 hd
      rcases ih (loader.load state c.1 c.2).state with h | ⟨i, f, h⟩
      · exact .inl (allLoad_cons.2 ⟨c, g, hc, hl, h⟩)
      · exact .inr ⟨i + 1, f, failsAt_succ.2 ⟨c, g, hc, hl, h⟩⟩

theorem grammarAt_take {i n : Nat} (hi : i < n) :
    grammarAt files loader roots state (ds.take n) i =
      grammarAt files loader roots state ds i := by
  have hmin : min i n = i := Nat.min_eq_left (Nat.le_of_lt hi)
  simp only [grammarAt, List.getElem?_take_of_lt hi, List.take_take, hmin]

theorem grammarAt_congr {files' : FileView}
    (h : ∀ d ∈ ds, callFor files' roots d = callFor files roots d) (i : Nat) :
    grammarAt files' loader roots state ds i = grammarAt files loader roots state ds i := by
  unfold grammarAt
  cases hd : ds[i]? with
  | none => rfl
  | some d =>
    have hbefore : (ds.take i).filterMap (callFor files' roots) =
        (ds.take i).filterMap (callFor files roots) :=
      List.filterMap_congr (fun e he ↦ h e (List.mem_of_mem_take he))
    simp only [Option.map_some, grammarAfter, hbefore, h d (List.mem_of_getElem? hd)]

theorem FailsAt.congr {files' : FileView} {ds' : List Declaration} {i : Nat} {f : Grammar.Fault}
    (h : FailsAt files loader roots state ds i f) (htake : ds'.take (i + 1) = ds.take (i + 1))
    (hcalls : ∀ d ∈ ds.take (i + 1), callFor files' roots d = callFor files roots d) :
    FailsAt files' loader roots state ds' i f := by
  have hat : ∀ j < i + 1, grammarAt files' loader roots state ds' j =
      grammarAt files loader roots state ds j := by
    intro j hj
    rw [← grammarAt_take hj, htake, grammarAt_congr hcalls, grammarAt_take hj]
  refine ⟨(hat i (Nat.lt_succ_self i)).trans h.1, fun j hj ↦ ?_⟩
  rw [hat j (Nat.lt_succ_of_lt hj)]
  exact h.2 j hj

end Step

/-- Where paths resolve depends on what stands where, not on what is in the files. -/
theorem callFor_of_kind {files files' : FileView} (h : files'.kind = files.kind)
    (roots : List Path) : callFor files' roots = callFor files roots := by
  cases files
  cases files'
  dsimp only at h
  subst h
  rfl

end Package

end GrammarPackages
