namespace GrammarPackages.Library.Name

/-- Names within a name, each after a dollar sign, and what they stand for. The program's own
directory holds no libraries. -/
def tokens : List (String × Option String) :=
  [("ORIGIN", none), ("PLATFORM", some "haswell"), ("LIB", some "lib/x86_64-linux-gnu")]

/-- Whether a token goes on with this character. -/
def Continues (c : Char) : Prop := c.isAlphanum ∨ c = '_'

instance (c : Char) : Decidable (Continues c) := inferInstanceAs (Decidable (_ ∨ _))

/-- How much of a text a token takes up at its start, in braces or bare. -/
def extent? (token : List Char) (s : List Char) : Option Nat :=
  let braced := '{' :: token ++ ['}']
  if braced.isPrefixOf s then some braced.length
  else if ¬ token.isPrefixOf s then none
  else if (s.drop token.length).head?.any (fun c ↦ Continues c) then none
  else some token.length

def token? (s : List Char) : Option (Nat × Option String) :=
  tokens.findSome? (fun t ↦ (extent? t.1.toList s).map (·, t.2))

/-- A name without its first characters, and with what its tokens stand for. There is none
if that is not known of a token. -/
def expand : (skipped : Nat) → List Char → Option (List Char)
  | _, [] => some []
  | skipped + 1, _ :: rest => expand skipped rest
  | 0, c :: rest =>
    match if c = '$' then token? rest else none with
    | none => (expand 0 rest).map (c :: ·)
    | some (_, none) => none
    | some (n, some text) => (expand n rest).map (text.toList ++ ·)

/-- Libraries that every system has. They hold no grammars. -/
def systemLibraries : List String :=
  ["ld-linux-x86-64.so.2", "libBrokenLocale.so.1", "libanl.so.1", "libc.so.6",
    "libc_malloc_debug.so.0", "libdl.so.2", "libgcc_s.so.1", "libm.so.6", "libmvec.so.1",
    "libnsl.so.1", "libnss_compat.so.2", "libnss_dns.so.2", "libnss_files.so.2",
    "libnss_hesiod.so.2", "libpthread.so.0", "libresolv.so.2", "librt.so.1", "libstdc++.so.6",
    "libutil.so.1", "libz.so.1", "linux-vdso.so.1"]

/-- Names of what is open from the start: the running program, which has the empty name, and
the system's libraries. -/
def IsSystem (name : List Char) : Prop := name = [] ∨ String.ofList name ∈ systemLibraries

instance (name : List Char) : Decidable (IsSystem name) := inferInstanceAs (Decidable (_ ∨ _))

end GrammarPackages.Library.Name
