import GrammarPackages.Manifest.Decode

namespace GrammarPackages

namespace FileView

/-- A view with these entries, without links and each under the one spelling given: a text is a
file's, no text stands for a directory. -/
def plain (entries : List (Path × Option String)) : FileView where
  kind p := (entries.lookup p).map (fun text ↦ if text.isSome then .file else .directory)
  contents p :=
    match entries.lookup p with
    | some (some text) => .ok text.toUTF8
    | some none => .error .isDirectory
    | none => .error .notFound
  canonical p := (entries.lookup p).map (fun _ ↦ p)
  identity p := entries.findIdx? (fun e ↦ e.1 = p)

theorem fromUTF8?_toUTF8 (text : String) : String.fromUTF8? text.toUTF8 = some text := by
  unfold String.fromUTF8?
  rw [dif_pos (show text.toUTF8.IsValidUTF8 from text.isValidUTF8)]
  rfl

theorem text_plain {entries : List (Path × Option String)} {p : Path} {text : String}
    (h : entries.lookup p = some (some text)) : (plain entries).text p = .ok text := by
  have hc : (plain entries).contents p = .ok text.toUTF8 := by simp only [plain, h]
  simp only [FileView.text, hc, bind, Except.bind, fromUTF8?_toUTF8]
  rfl

end FileView

theorem eq_ok_of_toOption {ε α : Type} {e : Except ε α} {a : α} (h : e.toOption = some a) :
    e = .ok a := by
  cases e with
  | error _ => cases h
  | ok b => rw [Option.some.inj h]

namespace Manifest

theorem read_plain {entries : List (Path × Option String)} {directory : Path}
    {text : String} {ds : List Declaration}
    (h : entries.lookup (directory / .ofString fileName) = some (some text))
    (hparse : (parse text).toOption = some ds) : read (.plain entries) directory = .ok ds := by
  rw [← eq_ok_of_toOption hparse]
  unfold read
  rw [FileView.text_plain h]
  rfl

/-- The manifest of a package with one grammar. -/
def soleText : String :=
  "\x7b\"tree-sitter\":[[\"s\",[\"a\"],\"g\",[],[],\"\",null,null]]\x7d"

def soleDeclaration : Declaration := ⟨"s", ["a"], "g", [], [], "", none, none⟩

theorem parse_soleText : (parse soleText).toOption = some [soleDeclaration] := by
  decide +kernel

end Manifest

end GrammarPackages
