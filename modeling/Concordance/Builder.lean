import Concordance.Index
import Concordance.Text.Lower
import Concordance.Text.Space

/-!
# Building an index

A builder takes documents one after another, each with the texts of its words. A text that is blank
or has white space inside is no word; any other is one, lower-cased and without the white space
around it. The builder counts the documents it was given, and those of them without a word.

Model of `IndexBuilder` (`new`, `add_document`, `ingest`, `build`, `stats`, `index`), `BuildStats`,
`parse_lemma_lines` and `MemoryLemmaSource` (`insert`, `with`, `documents`, `lemmas`).

Out of scope: log lines, and counters that do not fit in 64 bits.
-/

namespace Concordance

/-- The word that a text spells, if it spells one. -/
def wordOf? (t : Text) : Option Text :=
  let w := Text.trim t
  if w.isEmpty || w.any Text.isSpace then none else some (Text.lower w)

/-- The words of the lines of a text: the first field of each line that is not blank, lower-cased
(`parse_lemma_lines`). -/
def wordsOfLines (t : Text) : List Text :=
  (Text.lines t).filterMap fun line => (Text.fields line).head?.map Text.lower

/-- The numbers of documents, of documents without a word, and of words (`BuildStats`). -/
@[ext]
structure Stats where
  documents : Nat
  withoutWords : Nat
  words : Nat
  deriving DecidableEq, Repr

/-- An index under construction (`IndexBuilder`). -/
@[ext]
structure Builder where
  index : Index
  documents : Nat
  withoutWords : Nat
  deriving DecidableEq

namespace Builder

instance : EmptyCollection Builder := ⟨⟨∅, 0, 0⟩⟩

instance : Inhabited Builder := ⟨∅⟩

/-- Takes a document with the texts of its words (`add_document`). -/
def add (b : Builder) (d : DocId) (texts : List Text) : Builder :=
  let words := texts.filterMap wordOf?
  { index := words.foldl (fun x w => x.insert w d) b.index
    documents := b.documents + 1
    withoutWords := b.withoutWords + (if words.isEmpty then 1 else 0) }

/-- Takes documents one after another. -/
def addAll (b : Builder) (l : List (DocId × List Text)) : Builder :=
  l.foldl (fun b e => b.add e.1 e.2) b

/-- What the builder has counted. -/
def stats (b : Builder) : Stats := ⟨b.documents, b.withoutWords, b.index.size⟩

end Builder

/-! ## Documents held in memory -/

/-- Documents with the texts of their words, in the order in which they were put in
(`MemoryLemmaSource`). A document may be put in several times. -/
structure Holdings where
  entries : List (DocId × List Text)
  deriving DecidableEq, Repr

namespace Holdings

instance : EmptyCollection Holdings := ⟨⟨[]⟩⟩

/-- Puts in a document with the texts of its words. -/
def insert (h : Holdings) (d : DocId) (texts : List Text) : Holdings := ⟨h.entries ++ [(d, texts)]⟩

/-- Puts in documents one after another. -/
def insertAll (h : Holdings) (l : List (DocId × List Text)) : Holdings :=
  l.foldl (fun h e => h.insert e.1 e.2) h

/-- The documents of a list that have not been seen, each where it comes first. -/
def firstsBeyond (seen : AscSet DocId) : List DocId → List DocId
  | [] => []
  | d :: ds =>
    if d ∈ seen then firstsBeyond seen ds else d :: firstsBeyond (seen.insert d) ds

/-- The documents, each once, in the order in which they were first put in. -/
def documents (h : Holdings) : List DocId := firstsBeyond ∅ (h.entries.map (·.1))

/-- The texts of a document, in the order in which they were put in (`lemmas`). -/
def texts (h : Holdings) (d : DocId) : List Text :=
  (h.entries.filter (·.1 = d)).flatMap (·.2)

end Holdings

/-- Takes a document from memory (`ingest`). -/
def Builder.ingest (b : Builder) (h : Holdings) (d : DocId) : Builder := b.add d (h.texts d)

/-- Takes every document from memory (`build`). -/
def Builder.ofHoldings (h : Holdings) : Builder := h.documents.foldl (·.ingest h ·) ∅

end Concordance
