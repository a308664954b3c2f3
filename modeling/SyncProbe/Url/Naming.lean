import SyncProbe.Text.Split
import SyncProbe.Url.Encoding

/-!
# Names in ASCII

A host may be named in any script, but a URL holds its name in ASCII. Which name stands for a text
is a matter of large tables: how letters lose their case, which spellings are one, what no name may
hold. A `Naming` is a mapping that goes by such tables, and all that reads a URL depends on one. Two
things are known of it. The names that it gives can stand in a domain; and a plain text, for which
no table is needed, is a name itself once it is in lower case.

`Naming.ascii` is a mapping without tables, and `Naming.extend` adds a name to a mapping.
-/

namespace SyncProbe

namespace Host

/-- What no domain holds. -/
def outsideDomain (c : Char) : Bool :=
  0x80 ≤ c.toNat || Url.isControl c ||
    [' ', '#', '%', '/', ':', '<', '>', '?', '@', '[', '\\', ']', '^', '|'].contains c

/-- Whether a text can stand in a domain. -/
def fitsDomain (text : String) : Bool :=
  text.toList.all (! outsideDomain ·)

/-- Whether a part of a name says of itself that it encodes another one. -/
def isEncoded (part : List Char) : Bool :=
  (part.take 4).map Char.toLower = ['x', 'n', '-', '-']

/-- Whether a text can stand in a domain, and encodes nothing. -/
def isPlain (text : String) : Bool :=
  fitsDomain text && (splitOn (· = '.') text.toList).all (! isEncoded ·)

/-- A text in lower case, as far as it is in ASCII. -/
def lowerCase (text : String) : String :=
  String.ofList (text.toList.map Char.toLower)

theorem fitsDomain_iff {text : String} :
    fitsDomain text = true ↔ ∀ c ∈ text.toList, outsideDomain c = false := by
  simp only [fitsDomain, List.all_eq_true, Bool.not_eq_true']

theorem outsideDomain_toLower {c : Char} (inside : outsideDomain c = false) :
    outsideDomain c.toLower = false := by
  have all : ∀ code : Fin 0x80, outsideDomain (Char.ofNat code) = false →
      outsideDomain (Char.ofNat code).toLower = false := by decide +kernel
  have small : c.toNat < 0x80 := by
    simp only [outsideDomain, Bool.or_eq_false_iff, decide_eq_false_iff_not] at inside
    exact Nat.lt_of_not_le inside.1.1
  have lower := all ⟨c.toNat, small⟩
  rw [Char.ofNat_toNat] at lower
  exact lower inside

theorem fitsDomain_lowerCase {text : String} (fits : fitsDomain text = true) :
    fitsDomain (lowerCase text) = true := by
  rw [fitsDomain_iff] at fits ⊢
  intro c among
  rw [lowerCase, String.toList_ofList] at among
  obtain ⟨d, belongs, rfl⟩ := List.mem_map.mp among
  exact outsideDomain_toLower (fits d belongs)

end Host

open Host (fitsDomain isPlain lowerCase)

/-- A mapping of texts to the names in ASCII that stand for them. -/
class Naming where
  /-- The name that stands for a text, if one does. -/
  toAscii? : String → Option String
  /-- A name can stand in a domain. -/
  fits {text name : String} : toAscii? text = some name → fitsDomain name = true
  /-- A plain text stands for itself, in lower case. -/
  plain {text : String} : isPlain text = true → toAscii? text = some (lowerCase text)

namespace Naming

/-- A mapping without tables: a text in ASCII stands for itself, and no other is known. -/
@[reducible] def ascii : Naming where
  toAscii? text := if fitsDomain text then some (lowerCase text) else none
  fits := by
    intro text name names
    obtain ⟨fits, same⟩ := Option.ite_none_right_eq_some.mp names
    cases same
    exact Host.fitsDomain_lowerCase fits
  plain plain := if_pos (Bool.and_eq_true_iff.mp plain).1

/-- The mapping with one more name, for a text that is not plain. -/
@[reducible] def extend (naming : Naming) (text name : String) (foreign : isPlain text = false)
    (fits : fitsDomain name = true) : Naming where
  toAscii? other := if other = text then some name else naming.toAscii? other
  fits := by
    intro other given names
    split at names
    · cases names
      exact fits
    · exact naming.fits names
  plain := by
    intro other plain
    rw [if_neg]
    · exact naming.plain plain
    · rintro rfl
      rw [foreign] at plain
      cases plain

end Naming

end SyncProbe
