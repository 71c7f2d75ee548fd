import GrammarPackages.Grammar.Cache
import GrammarPackages.Proofs.LoaderHistory

namespace GrammarPackages.Grammar.Cache

variable {σ γ : Type} {c : Cache γ} {key path : Path}

@[simp]
theorem get?_empty (key : Path) : (∅ : Cache γ).get? key = none := rfl

theorem get?_congr (h : key ≈ path) : c.get? key = c.get? path := by
  have hiff : ∀ p : Path, p ≈ key ↔ p ≈ path := fun p ↦
    ⟨fun hp ↦ Setoid.trans hp h, fun hp ↦ Setoid.trans hp (Setoid.symm h)⟩
  simp only [get?, hiff]

theorem get?_insert (c : Cache γ) (path : Path) (g : γ) (key : Path) :
    (c.insert path g).get? key = if path ≈ key then some g else c.get? key := by
  unfold get? insert
  by_cases h : path ≈ key
  · rw [if_pos h, List.find?_cons_of_pos (by simpa using h)]
    rfl
  · rw [if_neg h, List.find?_cons_of_neg (by simpa using h)]

section Step

variable {canonical : Path → Option Path} {openAt : Opener σ γ} {s s' : σ} {name : String}

theorem getOrLoad_of_kept {g : γ} (h : c.get? (keyOf canonical path) = some g) :
    getOrLoad canonical openAt c s name path =
      ⟨.ok g, [.grammarReused name (keyOf canonical path)], (c, s)⟩ := by
  simp only [getOrLoad, h]

theorem getOrLoad_of_opened {g : γ} (h : c.get? (keyOf canonical path) = none)
    (hopen : openAt s (keyOf canonical path) name = (.ok g, s')) :
    getOrLoad canonical openAt c s name path =
      ⟨.ok g, [.grammarLoaded name (keyOf canonical path)],
        (c.insert (keyOf canonical path) g, s')⟩ := by
  simp only [getOrLoad, h, hopen]

theorem getOrLoad_of_fault {f : Fault} (h : c.get? (keyOf canonical path) = none)
    (hopen : openAt s (keyOf canonical path) name = (.error f, s')) :
    getOrLoad canonical openAt c s name path = ⟨.error f, [], (c, s')⟩ := by
  simp only [getOrLoad, h, hopen]

theorem getOrLoad_result (canonical : Path → Option Path) (openAt : Opener σ γ) (c : Cache γ)
    (s : σ) (name : String) (path : Path) :
    (getOrLoad canonical openAt c s name path).result =
      (c.get? (keyOf canonical path)).elim (openAt s (keyOf canonical path) name).1 .ok := by
  cases hkept : c.get? (keyOf canonical path) with
  | some g => rw [getOrLoad_of_kept hkept, Option.elim_some]
  | none =>
    cases hopen : openAt s (keyOf canonical path) name with
    | mk answer s' =>
      cases answer with
      | ok g => rw [getOrLoad_of_opened hkept hopen, Option.elim_none]
      | error f => rw [getOrLoad_of_fault hkept hopen, Option.elim_none]

/-- A call keeps what was kept. If there was nothing under its own key and a grammar is opened,
that is kept too. -/
theorem get?_getOrLoad (canonical : Path → Option Path) (openAt : Opener σ γ) (c : Cache γ)
    (s : σ) (name : String) (path key : Path) :
    (getOrLoad canonical openAt c s name path).state.1.get? key =
      (c.get? key).or (if keyOf canonical path ≈ key
        then (openAt s (keyOf canonical path) name).1.toOption else none) := by
  cases hkept : c.get? (keyOf canonical path) with
  | some g =>
    rw [getOrLoad_of_kept hkept]
    by_cases hkey : keyOf canonical path ≈ key
    · rw [← get?_congr hkey, hkept, Option.some_or]
    · rw [if_neg hkey, Option.or_none]
  | none =>
    cases hopen : openAt s (keyOf canonical path) name with
    | mk answer s' =>
      cases answer with
      | ok g =>
        rw [getOrLoad_of_opened hkept hopen, get?_insert]
        by_cases hkey : keyOf canonical path ≈ key
        · rw [if_pos hkey, if_pos hkey, ← get?_congr hkey, hkept]
          rfl
        · rw [if_neg hkey, if_neg hkey, Option.or_none]
      | error f =>
        have hnothing : (Except.error f : Except Fault γ).toOption = none := rfl
        rw [getOrLoad_of_fault hkept hopen, hnothing, ite_self, Option.or_none]

end Step

/-- Whether a library can be opened, and with what answer, does not hang on what was opened
before. -/
def Steady (openAt : Opener σ γ) : Prop :=
  ∀ s s' key name, (openAt s key name).1 = (openAt s' key name).1

/-- The grammar of the first of these calls that is for the library of this key and succeeds on
an empty cache. -/
def firstGrammar (canonical : Path → Option Path) (openAt : Opener σ γ) (state : σ)
    (calls : List (String × Path)) (key : Path) : Option γ :=
  calls.findSome? (fun call ↦ if keyOf canonical call.2 ≈ key
    then ((loader canonical openAt).answerAfter (∅, state) [] call).toOption else none)

section History

variable (canonical : Path → Option Path) {openAt : Opener σ γ}

theorem answerAfter_empty (openAt : Opener σ γ) (state : σ) (call : String × Path) :
    (loader canonical openAt).answerAfter (∅, state) [] call =
      (openAt state (keyOf canonical call.2) call.1).1 :=
  getOrLoad_result canonical openAt ∅ state call.1 call.2

theorem get?_stateAfter (hopen : Steady openAt) (state s : σ) (c : Cache γ)
    (calls : List (String × Path)) (key : Path) :
    ((loader canonical openAt).stateAfter (c, s) calls).1.get? key =
      (c.get? key).or (firstGrammar canonical openAt state calls key) := by
  induction calls generalizing c s with
  | nil => simp [firstGrammar]
  | cons call calls ih =>
    have hstep := get?_getOrLoad canonical openAt c s call.1 call.2 key
    rw [hopen s state, ← answerAfter_empty] at hstep
    have hrun := ih (getOrLoad canonical openAt c s call.1 call.2).state.2
      (getOrLoad canonical openAt c s call.1 call.2).state.1
    rw [Loader.stateAfter_cons]
    refine hrun.trans ?_
    rw [hstep, Option.or_assoc, firstGrammar, firstGrammar, List.findSome?_cons]
    cases (if keyOf canonical call.2 ≈ key
      then ((loader canonical openAt).answerAfter (∅, state) [] call).toOption else none) with
    | none => rw [Option.none_or]
    | some g => rw [Option.some_or]

theorem answerAfter_eq_elim (hopen : Steady openAt) (state : σ) (calls : List (String × Path))
    (call : String × Path) :
    (loader canonical openAt).answerAfter (∅, state) calls call =
      (firstGrammar canonical openAt state calls (keyOf canonical call.2)).elim
        ((loader canonical openAt).answerAfter (∅, state) [] call) .ok := by
  have hkept := get?_stateAfter canonical hopen state state ∅ calls (keyOf canonical call.2)
  rw [get?_empty, Option.none_or] at hkept
  rw [answerAfter_empty, ← hkept, Loader.answerAfter,
    hopen state ((loader canonical openAt).stateAfter (∅, state) calls).2]
  exact getOrLoad_result canonical openAt _ _ call.1 call.2

/-- A call is answered with the grammar of the first call for its library that succeeds by
itself. Where there is none it is answered as on an empty cache, and where there is one, only if
that is the grammar it would get there. -/
theorem answer_after_history (hopen : Steady openAt) (state : σ) (history : List (String × Path))
    (call : String × Path) :
    let answer := (loader canonical openAt).answerAfter (∅, state) history call
    let alone := (loader canonical openAt).answerAfter (∅, state) [] call
    let first := firstGrammar canonical openAt state history (keyOf canonical call.2)
    answer = first.elim alone .ok ∧ (answer = alone ↔ ∀ g, first = some g → alone = .ok g) := by
  intro answer alone first
  have hanswer : answer = first.elim alone .ok :=
    answerAfter_eq_elim canonical hopen state history call
  refine ⟨hanswer, ?_⟩
  rw [hanswer]
  cases first with
  | none => simp
  | some g => simp [eq_comm]

end History

/-- Every library has the grammars `a` and `b`, which are their names. -/
def twoGrammars : Opener Unit String := fun s key name ↦
  (if name ∈ ["a", "b"] then .ok name else .error (.unloadable key.toString), s)

theorem twoGrammars_steady : Steady twoGrammars := fun _ _ _ _ ↦ rfl

def linked (path : Path) : Option Path :=
  some (if path ≈ .ofString "/l" then .ofString "/g" else path)

theorem answer_after_history_of_alias :
    let history : List (String × Path) :=
      [("c", .ofString "/l"), ("a", .ofString "/g"), ("b", .ofString "/g")]
    let answer := (loader linked twoGrammars).answerAfter (∅, ()) history ("b", .ofString "/l")
    let alone := (loader linked twoGrammars).answerAfter (∅, ()) [] ("b", .ofString "/l")
    let first := firstGrammar linked twoGrammars () history (.ofString "/g")
    (Steady twoGrammars ∧ first = some "a" ∧ alone.toOption = some "b") ∧
      answer = first.elim alone .ok ∧ (answer = alone ↔ ∀ g, first = some g → alone = .ok g) :=
  ⟨⟨twoGrammars_steady, by decide +kernel, by decide +kernel⟩,
    answer_after_history linked twoGrammars_steady () _ ("b", .ofString "/l")⟩

/-- Every call is answered as on an empty cache. -/
def Transparent (canonical : Path → Option Path) (openAt : Opener σ γ) : Prop :=
  ∀ state history call, (loader canonical openAt).answerAfter (∅, state) history call =
    (loader canonical openAt).answerAfter (∅, state) [] call

theorem transparent_fails : Steady twoGrammars ∧ ¬ Transparent linked twoGrammars := by
  refine ⟨twoGrammars_steady, fun h ↦ ?_⟩
  have hsecond := h () [("a", .ofString "/g")] ("b", .ofString "/g")
  have hne : ((loader linked twoGrammars).answerAfter (∅, ()) [("a", .ofString "/g")]
      ("b", .ofString "/g")).toOption ≠
      ((loader linked twoGrammars).answerAfter (∅, ()) [] ("b", .ofString "/g")).toOption := by
    decide +kernel
  exact hne (congrArg Except.toOption hsecond)

end GrammarPackages.Grammar.Cache
