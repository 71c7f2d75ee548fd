import Mathlib.Data.List.Chain
import GrammarPackages.Proofs.CacheHistory

namespace GrammarPackages.Grammar.Cache

variable {σ γ : Type}

structure Opening (γ : Type) where
  library : Path
  name : String
  result : Except Fault γ

/-- Notes each use of the opener. -/
def watched (openAt : Opener σ γ) : Opener (List (Opening γ) × σ) γ := fun state key name ↦
  ((openAt state.2 key name).1,
    state.1 ++ [⟨key, name, (openAt state.2 key name).1⟩], (openAt state.2 key name).2)

/-- A call, with the spellings that are canonical and the libraries that open at its time. -/
structure Call (σ γ : Type) where
  canonical : Path → Option Path
  openAt : Opener σ γ
  name : String
  path : Path

def Call.key (call : Call σ γ) : Path := keyOf call.canonical call.path

/-- A call in a run: its answer, what it opened, and the cache before and after it. -/
structure Turn (σ γ : Type) where
  call : Call σ γ
  before : Cache γ
  answer : Except Fault γ
  openings : List (Opening γ)
  after : Cache γ

def Call.reply (call : Call σ γ) (c : Cache γ) (s : σ) : Reply (Cache γ × σ) γ :=
  getOrLoad call.canonical call.openAt c s call.name call.path

def Call.openings (call : Call σ γ) (c : Cache γ) (s : σ) : List (Opening γ) :=
  (getOrLoad call.canonical (watched call.openAt) c ([], s) call.name call.path).state.2.1

def Call.turn (call : Call σ γ) (c : Cache γ) (s : σ) : Turn σ γ :=
  ⟨call, c, (call.reply c s).result, call.openings c s, (call.reply c s).state.1⟩

def turns (c : Cache γ) (s : σ) : List (Call σ γ) → List (Turn σ γ)
  | [] => []
  | call :: rest =>
    call.turn c s :: turns (call.turn c s).after (call.reply c s).state.2 rest

/-- What a call can do to a cache. -/
inductive Turn.Made : Turn σ γ → Prop
  | reused {call : Call σ γ} {c : Cache γ} {g : γ} (kept : c.get? call.key = some g) :
      Made ⟨call, c, .ok g, [], c⟩
  | opened {call : Call σ γ} {c : Cache γ} {g : γ} (absent : c.get? call.key = none) :
      Made ⟨call, c, .ok g, [⟨call.key, call.name, .ok g⟩], c.insert call.key g⟩
  | failed {call : Call σ γ} {c : Cache γ} {f : Fault} (absent : c.get? call.key = none) :
      Made ⟨call, c, .error f, [⟨call.key, call.name, .error f⟩], c⟩

theorem Call.turn_made (call : Call σ γ) (c : Cache γ) (s : σ) : (call.turn c s).Made := by
  cases hkept : c.get? call.key with
  | some g =>
    have hturn : call.turn c s = ⟨call, c, .ok g, [], c⟩ := by
      rw [Call.turn, Call.reply, Call.openings, getOrLoad_of_kept hkept, getOrLoad_of_kept hkept]
    rw [hturn]
    exact .reused hkept
  | none =>
    cases hopen : call.openAt s call.key call.name with
    | mk answer s' =>
      have hwatched : watched call.openAt ([], s) call.key call.name =
          (answer, [⟨call.key, call.name, answer⟩], s') := by
        simp only [watched, hopen, List.nil_append]
      cases answer with
      | ok g =>
        have hturn : call.turn c s =
            ⟨call, c, .ok g, [⟨call.key, call.name, .ok g⟩], c.insert call.key g⟩ := by
          rw [Call.turn, Call.reply, Call.openings, getOrLoad_of_opened hkept hopen,
            getOrLoad_of_opened hkept hwatched]
          rfl
        rw [hturn]
        exact .opened hkept
      | error f =>
        have hturn : call.turn c s =
            ⟨call, c, .error f, [⟨call.key, call.name, .error f⟩], c⟩ := by
          rw [Call.turn, Call.reply, Call.openings, getOrLoad_of_fault hkept hopen,
            getOrLoad_of_fault hkept hwatched]
        rw [hturn]
        exact .failed hkept

namespace Turn.Made

variable {t : Turn σ γ} {key : Path} {g : γ}

theorem get?_after (h : t.Made) (hkept : t.before.get? key = some g) :
    t.after.get? key = some g := by
  cases h with
  | reused => exact hkept
  | @opened call c _ absent =>
    have hne : ¬ call.key ≈ key := by
      intro he
      rw [get?_congr he, hkept] at absent
      cases absent
    rw [get?_insert, if_neg hne]
    exact hkept
  | failed => exact hkept

theorem get?_after_of_not_equiv (h : t.Made) (hkey : ¬ t.call.key ≈ key) :
    t.after.get? key = t.before.get? key := by
  cases h with
  | reused => rfl
  | opened => rw [get?_insert, if_neg hkey]
  | failed => rfl

theorem of_kept (h : t.Made) (hkept : t.before.get? t.call.key = some g) :
    t.answer = .ok g ∧ t.openings = [] := by
  cases h with
  | reused kept =>
    rw [Option.some.inj (kept.symm.trans hkept)]
    exact ⟨rfl, rfl⟩
  | opened absent => cases absent.symm.trans hkept
  | failed absent => cases absent.symm.trans hkept

theorem of_absent (h : t.Made) (habsent : t.before.get? t.call.key = none) :
    t.openings = [⟨t.call.key, t.call.name, t.answer⟩] := by
  cases h with
  | reused kept => cases kept.symm.trans habsent
  | opened => rfl
  | failed => rfl

theorem of_error {f : Fault} (h : t.Made) (hfault : t.answer = .error f) :
    t.before.get? t.call.key = none ∧ t.after = t.before := by
  cases h with
  | reused => cases hfault
  | opened => cases hfault
  | failed absent => exact ⟨absent, rfl⟩

theorem openings_eq (h : t.Made) :
    t.openings = [] ∨ t.openings = [⟨t.call.key, t.call.name, t.answer⟩] := by
  cases h with
  | reused => exact .inl rfl
  | opened => exact .inr rfl
  | failed => exact .inr rfl

theorem get?_after_of_opening (h : t.Made) {o : Opening γ} (ho : o ∈ t.openings)
    (hresult : o.result = .ok g) (hkey : o.library ≈ key) : t.after.get? key = some g := by
  cases h with
  | reused => cases ho
  | opened =>
    rw [List.mem_singleton.1 ho] at hresult hkey
    rw [get?_insert, if_pos hkey, Except.ok.inj hresult]
  | failed =>
    rw [List.mem_singleton.1 ho] at hresult
    cases hresult

theorem mem_entries_after (h : t.Made) {e : Path × γ} (he : e ∈ t.after.entries) :
    e ∈ t.before.entries ∨ ⟨e.1, t.call.name, .ok e.2⟩ ∈ t.openings := by
  cases h with
  | reused => exact .inl he
  | opened =>
    rcases List.mem_cons.1 he with rfl | he
    · exact .inr (List.mem_singleton_self _)
    · exact .inl he
  | failed => exact .inl he

end Turn.Made

def successes (key : Path) (ts : List (Turn σ γ)) : List (Opening γ) :=
  (ts.flatMap Turn.openings).filter (fun o ↦ o.library ≈ key ∧ o.result.isOk)

section Run

variable {c : Cache γ} {s : σ} {calls : List (Call σ γ)} {t : Turn σ γ} {a b : List (Turn σ γ)}
variable {key : Path} {g : γ}

theorem made_of_mem_turns (h : t ∈ turns c s calls) : t.Made := by
  induction calls generalizing c s with
  | nil => cases h
  | cons call calls ih =>
    rcases List.mem_cons.1 h with rfl | h
    · exact call.turn_made c s
    · exact ih h

theorem get?_before_of_mem_turns (hkept : c.get? key = some g) (h : t ∈ turns c s calls) :
    t.before.get? key = some g := by
  induction calls generalizing c s with
  | nil => cases h
  | cons call calls ih =>
    rcases List.mem_cons.1 h with rfl | h
    · exact hkept
    · exact ih ((call.turn_made c s).get?_after hkept) h

theorem pairwise_turns (c : Cache γ) (s : σ) (calls : List (Call σ γ)) :
    (turns c s calls).Pairwise (fun t t' ↦
      ∀ key g, t.after.get? key = some g → t'.before.get? key = some g) := by
  induction calls generalizing c s with
  | nil => exact .nil
  | cons call calls ih =>
    refine List.pairwise_cons.2 ⟨fun t' ht' key g hkept ↦ ?_, ih _ _⟩
    exact get?_before_of_mem_turns hkept ht'

theorem turns_chain (c : Cache γ) (s : σ) (calls : List (Call σ γ)) :
    (turns c s calls).IsChain (fun t t' ↦ t'.before = t.after) := by
  induction calls generalizing c s with
  | nil => exact .nil
  | cons call calls ih =>
    cases calls with
    | nil => exact .singleton _
    | cons next calls => exact .cons_cons rfl (ih _ _)

theorem map_call_turns (c : Cache γ) (s : σ) (calls : List (Call σ γ)) :
    (turns c s calls).map Turn.call = calls := by
  induction calls generalizing c s with
  | nil => rfl
  | cons call calls ih => exact congrArg (call :: ·) (ih _ _)

/-- A run is a first call on its cache, and a run from what that call leaves. -/
theorem turns_eq_cons (h : turns c s calls = t :: b) :
    t.before = c ∧ t.Made ∧ ∃ (s' : σ) (calls' : List (Call σ γ)), turns t.after s' calls' = b := by
  cases calls with
  | nil => cases h
  | cons call calls =>
    obtain ⟨rfl, hrest⟩ := List.cons.inj h
    exact ⟨rfl, call.turn_made c s, _, calls, hrest⟩

theorem exists_turns_of_append (h : turns c s calls = a ++ b) :
    ∃ (c' : Cache γ) (s' : σ) (calls' : List (Call σ γ)), turns c' s' calls' = b := by
  induction a generalizing c s calls with
  | nil => exact ⟨c, s, calls, h⟩
  | cons u a ih =>
    obtain ⟨-, -, s', calls', hrest⟩ := turns_eq_cons h
    exact ih hrest

theorem get?_before_eq_none (habsent : c.get? key = none)
    (hothers : ∀ u ∈ a, ¬ u.call.key ≈ key) (h : turns c s calls = a ++ t :: b) :
    t.before.get? key = none := by
  induction a generalizing c s calls with
  | nil =>
    obtain ⟨rfl, -⟩ := turns_eq_cons h
    exact habsent
  | cons u a ih =>
    obtain ⟨rfl, hmade, s', calls', hrest⟩ := turns_eq_cons h
    have hu := hmade.get?_after_of_not_equiv (hothers u List.mem_cons_self)
    exact ih (hu.trans habsent) (fun v hv ↦ hothers v (List.mem_cons_of_mem _ hv)) hrest

/-- After a call that fails, the next one for its library opens it again. -/
theorem openings_after_error {d : List (Turn σ γ)} {t' : Turn σ γ} {f : Fault}
    (h : turns c s calls = a ++ t :: (b ++ t' :: d)) (hfault : t.answer = .error f)
    (hothers : ∀ u ∈ b, ¬ u.call.key ≈ t.call.key) (hkey : t'.call.key ≈ t.call.key) :
    t'.openings = [⟨t'.call.key, t'.call.name, t'.answer⟩] := by
  have ht' : t' ∈ turns c s calls := by simp [h]
  obtain ⟨c', s', calls', hrun⟩ := exists_turns_of_append h
  obtain ⟨-, hmade, s'', calls'', hrest⟩ := turns_eq_cons hrun
  obtain ⟨habsent, hafter⟩ := hmade.of_error hfault
  rw [← hafter] at habsent
  refine (made_of_mem_turns ht').of_absent ?_
  rw [get?_congr hkey]
  exact get?_before_eq_none habsent hothers hrest

theorem successes_of_kept (hkept : c.get? key = some g) :
    successes key (turns c s calls) = [] := by
  -- a call for the library opens nothing, and any other call opens another library
  refine List.filter_eq_nil_iff.2 fun o ho hsuccess ↦ ?_
  obtain ⟨t, ht, ho⟩ := List.mem_flatMap.1 ho
  have hbefore := get?_before_of_mem_turns hkept ht
  rcases (made_of_mem_turns ht).openings_eq with hnone | hone
  · rw [hnone] at ho
    cases ho
  · have hkey : t.call.key ≈ key := by
      rw [hone] at ho
      rw [List.mem_singleton.1 ho] at hsuccess
      exact (of_decide_eq_true hsuccess).1
    rw [← get?_congr hkey] at hbefore
    rw [((made_of_mem_turns ht).of_kept hbefore).2] at hone
    cases hone

theorem length_successes_le (key : Path) (c : Cache γ) (s : σ) (calls : List (Call σ γ)) :
    (successes key (turns c s calls)).length ≤ 1 := by
  induction calls generalizing c s with
  | nil => exact Nat.zero_le 1
  | cons call calls ih =>
    have hmade := call.turn_made c s
    have hsplit : successes key (turns c s (call :: calls)) =
        successes key [call.turn c s] ++
          successes key (turns (call.turn c s).after (call.reply c s).state.2 calls) := by
      simp [successes, turns]
    have hfirst : (successes key [call.turn c s]).length ≤ 1 := by
      refine Nat.le_trans (List.length_filter_le _ _) ?_
      rcases hmade.openings_eq with h | h <;> simp [h]
    rw [hsplit, List.length_append]
    cases hs : successes key [call.turn c s] with
    | nil => simpa using ih _ _
    | cons o l =>
      -- what the first call opened is kept, so the calls after it add no success
      have ho : o ∈ successes key [call.turn c s] := hs ▸ List.mem_cons_self
      obtain ⟨hmem, hsuccess⟩ := List.mem_filter.1 ho
      obtain ⟨hkey, hok⟩ := of_decide_eq_true hsuccess
      cases hresult : o.result with
      | error f =>
        rw [hresult] at hok
        cases hok
      | ok g =>
        have hkept := hmade.get?_after_of_opening (by simpa using hmem) hresult hkey
        rw [successes_of_kept hkept, ← hs]
        exact hfirst

/-- An entry stood in the cache before the run, or a call up to now opened it. -/
theorem opened_of_mem_entries (h : turns c s calls = a ++ t :: b) {e : Path × γ}
    (he : e ∈ t.after.entries) :
    e ∈ c.entries ∨ ∃ u ∈ a ++ [t], ⟨e.1, u.call.name, .ok e.2⟩ ∈ u.openings := by
  induction a generalizing c s calls with
  | nil =>
    obtain ⟨rfl, hmade, -⟩ := turns_eq_cons h
    exact (hmade.mem_entries_after he).imp_right fun ho ↦ ⟨t, List.mem_singleton_self t, ho⟩
  | cons u a ih =>
    obtain ⟨rfl, hmade, s', calls', hrest⟩ := turns_eq_cons h
    rcases ih hrest with hbefore | ⟨v, hv, ho⟩
    · exact (hmade.mem_entries_after hbefore).imp_right fun ho ↦ ⟨u, List.mem_cons_self, ho⟩
    · exact .inr ⟨v, List.mem_cons_of_mem u hv, ho⟩

end Run

/-- A library is opened until that succeeds, and its grammar is kept from then on. -/
structure KeepsOpened (calls : List (Call σ γ)) (ts : List (Turn σ γ)) : Prop where
  calls_eq : ts.map Turn.call = calls
  starts_empty : ∀ t, ts.head? = some t → t.before = ∅
  handed_on : ts.IsChain (fun t t' ↦ t'.before = t.after)
  kept : ts.Pairwise (fun t t' ↦ ∀ key g, t.after.get? key = some g →
    t'.after.get? key = some g ∧
      (t'.call.key ≈ key → t'.answer = .ok g ∧ t'.openings = []))
  unmoved_by_failure : ∀ t ∈ ts, ∀ f, t.answer = .error f → t.after = t.before
  reopened : ∀ a t b t' d f, ts = a ++ t :: (b ++ t' :: d) → t.answer = .error f →
    (∀ u ∈ b, ¬ u.call.key ≈ t.call.key) → t'.call.key ≈ t.call.key →
      t'.openings = [⟨t'.call.key, t'.call.name, t'.answer⟩]
  opened_once : ∀ t ∈ ts,
    t.openings = [] ∨ t.openings = [⟨t.call.key, t.call.name, t.answer⟩]
  one_success : ∀ key, (successes key ts).length ≤ 1
  opened_of_mem : ∀ a t b, ts = a ++ t :: b → ∀ e ∈ t.after.entries,
    ∃ u ∈ a ++ [t], ⟨e.1, u.call.name, .ok e.2⟩ ∈ u.openings

/-- In a run from an empty cache, whatever files change between the calls and however each call
opens libraries, the cache keeps what was opened first. -/
theorem turns_keep_opened (s : σ) (calls : List (Call σ γ)) :
    KeepsOpened calls (turns ∅ s calls) where
  calls_eq := map_call_turns ∅ s calls
  starts_empty t ht := by
    obtain ⟨rest, hturns⟩ := List.head?_eq_some_iff.1 ht
    exact (turns_eq_cons hturns).1
  handed_on := turns_chain ∅ s calls
  kept := by
    refine List.Pairwise.imp_of_mem ?_ (pairwise_turns ∅ s calls)
    intro t t' _ ht' hpair key g hkept
    have hmade := made_of_mem_turns ht'
    have hbefore := hpair key g hkept
    refine ⟨hmade.get?_after hbefore, fun hkey ↦ ?_⟩
    exact hmade.of_kept ((get?_congr hkey).trans hbefore)
  unmoved_by_failure t ht f hfault := ((made_of_mem_turns ht).of_error hfault).2
  reopened a t b t' d f h hfault hothers hkey := openings_after_error h hfault hothers hkey
  opened_once t ht := (made_of_mem_turns ht).openings_eq
  one_success key := length_successes_le key ∅ s calls
  opened_of_mem a t b h e he := by
    rcases opened_of_mem_entries h he with hempty | hopened
    · cases hempty
    · exact hopened

end GrammarPackages.Grammar.Cache
