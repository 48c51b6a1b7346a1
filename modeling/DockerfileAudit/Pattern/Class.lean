import DockerfileAudit.Text.Case
import DockerfileAudit.Text.Property.Age
import DockerfileAudit.Text.Property.Break
import DockerfileAudit.Text.Property.GeneralCategory
import DockerfileAudit.Text.Property.Script
import DockerfileAudit.Text.Property.ScriptUse

/-!
The sets of characters that a pattern can name: digits, words and white space, the classes of
ASCII between brackets and colons, and the properties of Unicode.
-/
set_option autoImplicit false

namespace DockerfileAudit
namespace Pattern

def categories (names : List String) : CodeSet :=
  names.foldr
    (fun name set =>
      match Property.find? Property.generalCategories name.toList with
      | some category => category.codes.union set
      | none => set)
    CodeSet.empty

def digitSet : CodeSet := categories ["nd"]

/-- The characters of words: letters, marks, decimal digits, connectors and joiners. -/
def wordSet : CodeSet :=
  Property.joinControl.codes.union
    ((categories ["mn", "mc", "me", "nd", "pc"]).union Property.alphabetic.codes)

def asciiDigitSet : CodeSet := ⟨[(0x30, 0x39)]⟩

def asciiWordSet : CodeSet := ⟨[(0x30, 0x39), (0x41, 0x5A), (0x5F, 0x5F), (0x61, 0x7A)]⟩

def asciiSpaceSet : CodeSet := ⟨[(0x9, 0xD), (0x20, 0x20)]⟩

def asciiClasses : List (String × CodeSet) := [
  ("alnum", ⟨[(0x30, 0x39), (0x41, 0x5A), (0x61, 0x7A)]⟩),
  ("alpha", ⟨[(0x41, 0x5A), (0x61, 0x7A)]⟩),
  ("ascii", ⟨[(0x0, 0x7F)]⟩),
  ("blank", ⟨[(0x9, 0x9), (0x20, 0x20)]⟩),
  ("cntrl", ⟨[(0x0, 0x1F), (0x7F, 0x7F)]⟩),
  ("digit", asciiDigitSet),
  ("graph", ⟨[(0x21, 0x7E)]⟩),
  ("lower", ⟨[(0x61, 0x7A)]⟩),
  ("print", ⟨[(0x20, 0x7E)]⟩),
  ("punct", ⟨[(0x21, 0x2F), (0x3A, 0x40), (0x5B, 0x60), (0x7B, 0x7E)]⟩),
  ("space", asciiSpaceSet),
  ("upper", ⟨[(0x41, 0x5A)]⟩),
  ("word", asciiWordSet),
  ("xdigit", ⟨[(0x30, 0x39), (0x41, 0x46), (0x61, 0x66)]⟩)]

def asciiClass? (name : Text) : Option CodeSet :=
  (asciiClasses.find? fun known => known.1.toList == name).map Prod.snd

/-- The general categories that are unions of others, under their names. -/
def categoryGroups : List (List String × List String) := [
  (["l", "letter"], ["lu", "ll", "lt", "lm", "lo"]),
  (["lc", "casedletter"], ["lu", "ll", "lt"]),
  (["m", "mark", "combiningmark"], ["mn", "mc", "me"]),
  (["n", "number"], ["nd", "nl", "no"]),
  (["p", "punctuation", "punct"], ["pc", "pd", "ps", "pe", "pi", "pf", "po"]),
  (["s", "symbol"], ["sm", "sc", "sk", "so"]),
  (["z", "separator"], ["zs", "zl", "zp"]),
  (["c", "other"], ["cc", "cf", "co", "cn"])]

def category? (name : Text) : Option CodeSet :=
  if name = "any".toList then some CodeSet.all
  else if name = "assigned".toList then some (categories ["cn"]).complement
  else if name = "ascii".toList then some ⟨[(0x0, 0x7F)]⟩
  else
    match Property.find? Property.generalCategories name with
    | some category => some category.codes
    | none =>
        (categoryGroups.find? fun group => group.1.any fun known => known.toList == name).map
          fun group => categories group.2

def script? (name : Text) : Option CodeSet :=
  (Property.find? Property.scripts name).map Property.codes

def scriptUse? (name : Text) : Option CodeSet :=
  match Property.find? Property.scriptUses name with
  | some script => some script.codes
  | none => script? name

def binary? (name : Text) : Option CodeSet :=
  (Property.find? Property.binaries name).map Property.codes

/-- A name as the tables spell it: case, blanks, hyphens and low lines do not count, nor does
`is` at the front. The name `isc` keeps its front, since `c` alone means something else. -/
def spelling (name : Text) : Text :=
  let plain (text : Text) : Text :=
    (text.filter fun c => c.toNat < 0x80 && c != ' ' && c != '_' && c != '-').map Text.asciiLower
  match name with
  | i :: s :: rest =>
      if Text.asciiLower i = 'i' ∧ Text.asciiLower s = 's' then
        if plain rest = ['c'] then ['i', 's', 'c'] else plain rest
      else plain name
  | _ => plain name

/-- The set that a single name stands for: a property, else a category, else a script. Three
names that are both are categories. -/
def named? (name : Text) : Option CodeSet :=
  let name := spelling name
  let property :=
    if name ∈ ["cf".toList, "sc".toList, "lc".toList] then none else binary? name
  property <|> category? name <|> script? name

def valued? (name value : Text) : Option CodeSet :=
  let name := spelling name
  if name ∈ ["gc".toList, "generalcategory".toList] then category? (spelling value)
  else if name ∈ ["sc".toList, "script".toList] then script? (spelling value)
  else if name ∈ ["scx".toList, "scriptextensions".toList] then scriptUse? (spelling value)
  else if name = "age".toList then Property.age? (spelling value)
  else
    let breaks :=
      if name ∈ ["gcb".toList, "graphemeclusterbreak".toList] then Property.graphemeBreaks
      else if name ∈ ["wb".toList, "wordbreak".toList] then Property.wordBreaks
      else if name ∈ ["sb".toList, "sentencebreak".toList] then Property.sentenceBreaks
      else []
    (Property.find? breaks (spelling value)).map Property.codes

end Pattern
end DockerfileAudit
