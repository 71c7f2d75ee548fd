namespace GrammarPackages

/-- A value together with the place of the declaration it was made for. Copies of one handle
share the value; handles of two declarations never do. -/
structure Handle (γ : Type) where
  place : Nat
  value : γ
deriving DecidableEq

/-- A grammar ready for use. -/
structure Language (γ : Type) where
  grammar : Handle γ
  /-- Highlighting classes by selector; manifests do not supply any yet. -/
  scopeMappings : Option (List (String × String))
deriving DecidableEq

namespace Language

variable {γ : Type}

def ofHandle (h : Handle γ) : Language γ := ⟨h, none⟩

def SharesWith (a b : Language γ) : Prop := a.grammar.place = b.grammar.place

instance (a b : Language γ) : Decidable (a.SharesWith b) := inferInstanceAs (Decidable (_ = _))

end Language

/-- The languages of a package by file type. -/
structure Registry (γ : Type) where
  entries : List (String × Language γ)
  distinct : (entries.map Prod.fst).Nodup

namespace Registry

variable {γ : Type}

instance : EmptyCollection (Registry γ) := ⟨⟨[], .nil⟩⟩

instance : Inhabited (Registry γ) := ⟨∅⟩

def get? (r : Registry γ) (fileType : String) : Option (Language γ) := r.entries.lookup fileType

def fileTypes (r : Registry γ) : List String := r.entries.map Prod.fst

instance : Membership String (Registry γ) := ⟨fun r fileType ↦ fileType ∈ r.fileTypes⟩

theorem mem_iff {r : Registry γ} {fileType : String} : fileType ∈ r ↔ fileType ∈ r.fileTypes :=
  Iff.rfl

instance (fileType : String) (r : Registry γ) : Decidable (fileType ∈ r) :=
  inferInstanceAs (Decidable (fileType ∈ r.fileTypes))

def size (r : Registry γ) : Nat := r.entries.length

def isEmpty (r : Registry γ) : Bool := r.entries.isEmpty

def toList (r : Registry γ) : List (String × Language γ) := r.entries

/-- Puts the value in place of the one the key has, or else at the end. -/
def assign (key : String) (l : Language γ) :
    List (String × Language γ) → List (String × Language γ)
  | [] => [(key, l)]
  | e :: rest => if e.1 = key then (key, l) :: rest else e :: assign key l rest

theorem keys_assign (key : String) (l : Language γ) (entries : List (String × Language γ)) :
    (assign key l entries).map Prod.fst =
      if key ∈ entries.map Prod.fst then entries.map Prod.fst
      else entries.map Prod.fst ++ [key] := by
  induction entries with
  | nil => simp [assign]
  | cons e rest ih =>
    by_cases h : e.1 = key
    · simp [assign, h]
    · have h' : ¬ key = e.1 := fun hk ↦ h hk.symm
      simp only [assign, h, if_false, List.map_cons, ih, List.mem_cons, h', false_or]
      split <;> rfl

/-- Registers a language, in place of the one the file type had. -/
def insert (r : Registry γ) (fileType : String) (l : Language γ) : Registry γ where
  entries := assign fileType l r.entries
  distinct := by
    rw [keys_assign]
    split
    · exact r.distinct
    · rename_i h
      refine List.nodup_append.2 ⟨r.distinct, by simp, fun a ha b hb ↦ ?_⟩
      rw [List.mem_singleton.1 hb]
      exact fun hab ↦ h (hab ▸ ha)

/-- The entries in the order of their file types. -/
def sorted (r : Registry γ) : List (String × Language γ) :=
  r.entries.mergeSort (fun a b ↦ a.1 ≤ b.1)

/-- The file types, in order, whose language shares the grammar of `l`. -/
def sharers (r : Registry γ) (l : Language γ) : List String :=
  (r.sorted.filter (fun e ↦ e.2.SharesWith l)).map Prod.fst

end Registry

end GrammarPackages
