import Concordance.AscSet
import Concordance.Text.Decimal

/-!
# Document numbers

A document is known by a number below 2^64, written in decimal.

Model of `DocId` and `PostingSet`.

* `ofText?_toText`: a written number reads back.
-/

namespace Concordance

/-- The number of a document. -/
abbrev DocId := UInt64

/-- The numbers of some documents, in ascending order (`PostingSet`). -/
abbrev Postings := AscSet DocId

namespace DocId

/-- The document with a number, if the number is below 2^64. -/
def ofNat? (n : Nat) : Option DocId := if h : n < UInt64.size then some (UInt64.ofNatLT n h) else none

/-- The document whose number a text spells. -/
def ofText? (t : Text) : Option DocId := (Text.ofDecimal? t).bind ofNat?

/-- The number of a document in decimal. -/
def toText (d : DocId) : Text := Text.toDecimal d.toNat

theorem ofNat?_toNat (d : DocId) : ofNat? d.toNat = some d := by
  rw [ofNat?, dif_pos d.toNat_lt]
  exact congrArg some (UInt64.toNat_inj.mp (UInt64.toNat_ofNatLT ..))

/-- A written number reads back. -/
theorem ofText?_toText (d : DocId) : ofText? (toText d) = some d := by
  rw [ofText?, toText, Text.ofDecimal?_toDecimal, Option.bind_some, ofNat?_toNat]

end DocId

end Concordance
