import Concordance.Pages

/-!
# When word lists cannot be taken from disk

A directory is scanned and then the words of its documents are read, one file after another. Both
can fail, the first in two ways (`Pages.Unscanned`) and the second in one, which a single file is
enough for (`Pages.Garbled`). What fails does so whatever was read before, so the failures of a
whole run are those of its steps.

The two steps are `open` and `lemmas` of a `DirLemmaSource`.

* `Pages.scan_eq_error_iff`, `Pages.wordsInAll_eq_error_iff`: the two steps.
* **`Builder.ofDirectory_eq_error_iff`**: when the documents of a directory cannot be taken, and
  why.
-/

namespace Concordance

open FileTree (Unseen)

/-- A directory has a file of words, and it cannot be read or is no text. -/
def Pages.Garbled (f : FileTree) (unseen : Unseen) (dir : Text) : Prop :=
  f.isFile (Path.join dir wordFile) = true ∧ unseen (.see (Path.join dir wordFile)) = false ∧
    (unseen (.read (Path.join dir wordFile)) = true ∨ f.read? (Path.join dir wordFile) = none)

/-- Why a directory is not scanned: it cannot be seen to be one, or it cannot be listed. -/
inductive Pages.Unscanned (f : FileTree) (unseen : Unseen) (root : Text) : Error → Prop where
  | missing : unseen (.see root) = true ∨ f.list? root = none →
    Unscanned f unseen root (.notFound root)
  | unlisted : unseen (.see root) = false → f.list? root ≠ none → unseen (.list root) = true →
    Unscanned f unseen root .inaccessible

/-- Why the documents of a directory cannot be taken: it is not scanned, or a directory of one of
the documents has a file of words that cannot be read or is no text. -/
inductive Unreadable (f : FileTree) (unseen : Unseen) (root : Text) : Error → Prop where
  | unscanned {e : Error} : Pages.Unscanned f unseen root e → Unreadable f unseen root e
  | garbled {pages : Pages} {d : DocId} {dir : Text} : Pages.scan f root unseen = .ok pages →
    d ∈ pages.documents → dir ∈ pages.dirs.getD d [] → Pages.Garbled f unseen dir →
    Unreadable f unseen root .inaccessible

variable {f : FileTree} {unseen : Unseen} {root : Text} {e : Error}

/-- Of two steps that fail for one reason only, the second is taken if the first does not fail. -/
theorem bind_eq_error_iff {α β ε : Type} {x : Except ε α} {k : α → Except ε β} {c e : ε}
    {P Q : Prop} (hx : ∀ e, x = .error e ↔ P ∧ e = c) (hk : ∀ a, k a = .error e ↔ Q ∧ e = c) :
    (x >>= k) = .error e ↔ (P ∨ Q) ∧ e = c := by
  cases x with
  | error e' =>
    obtain ⟨hp, rfl⟩ := (hx e').mp rfl
    exact ⟨fun h => by cases h; exact ⟨.inl hp, rfl⟩, fun ⟨_, h⟩ => by rw [h]; rfl⟩
  | ok a =>
    have hp : ¬ P := fun hp => nomatch (hx c).mpr ⟨hp, rfl⟩
    rw [or_iff_right hp]
    exact hk a

namespace Pages

theorem scan_eq_error_iff : scan f root unseen = .error e ↔ Unscanned f unseen root e := by
  unfold scan
  constructor
  · intro h
    split at h
    case h_1 hlist =>
      cases h
      split at hlist
      · exact .missing (.inl ‹_›)
      · exact .missing (.inr hlist)
    case h_2 hlist =>
      split at hlist
      · cases hlist
      split at h
      · cases h
        exact .unlisted (Bool.eq_false_iff.mpr ‹_›) (by rw [hlist]; nofun) ‹_›
      · cases h
  · intro h
    cases h with
    | missing h =>
      rcases h with hunseen | hlist
      · rw [if_pos hunseen]
      · rw [hlist, ite_self]
    | unlisted hseen hlist hunlisted =>
      obtain ⟨children, hchildren⟩ := Option.ne_none_iff_exists'.mp hlist
      rw [hseen, hchildren, hunlisted]
      rfl

theorem wordsIn_eq_error_iff {dir : Text} :
    wordsIn f dir unseen = .error e ↔ Garbled f unseen dir ∧ e = .inaccessible := by
  simp only [wordsIn, Garbled, Bool.and_eq_true, Bool.not_eq_true']
  split
  case isFalse hseen => exact ⟨nofun, fun ⟨h, _⟩ => absurd ⟨h.1, h.2.1⟩ hseen⟩
  case isTrue hseen =>
    split
    case h_1 hread =>
      refine ⟨nofun, fun ⟨⟨_, _, h⟩, _⟩ => ?_⟩
      rcases h with h | h
      · rw [if_pos h] at hread; cases hread
      · rw [h, ite_self] at hread; cases hread
    case h_2 hread =>
      refine ⟨fun h => ?_, fun ⟨_, h⟩ => by rw [h]⟩
      cases h
      refine ⟨⟨hseen.1, hseen.2, ?_⟩, rfl⟩
      split at hread
      · exact .inl ‹_›
      · exact .inr hread

/-- One directory after another is read, until one cannot be. -/
theorem wordsInAll_eq_error_iff {dirs : List Text} :
    wordsInAll f unseen dirs = .error e ↔
      (∃ dir ∈ dirs, Garbled f unseen dir) ∧ e = .inaccessible := by
  induction dirs generalizing e with
  | nil => exact ⟨nofun, fun ⟨⟨_, h, _⟩, _⟩ => nomatch h⟩
  | cons dir dirs ih =>
    simp only [List.mem_cons, exists_eq_or_imp]
    refine bind_eq_error_iff (fun _ => wordsIn_eq_error_iff) fun ws => ?_
    rw [← ih]
    cases wordsInAll f unseen dirs with
    | error e' => rfl
    | ok more => exact ⟨nofun, nofun⟩

end Pages

namespace Builder

theorem ingestPage_eq_error_iff {b : Builder} {p : Pages} {d : DocId} :
    b.ingestPage f p d unseen = .error e ↔
      (∃ dir ∈ p.dirs.getD d [], Pages.Garbled f unseen dir) ∧ e = .inaccessible := by
  rw [← Pages.wordsInAll_eq_error_iff, ingestPage, Pages.words]
  cases Pages.wordsInAll f unseen (p.dirs.getD d []) with
  | error e' => exact ⟨fun h => by cases h; rfl, fun h => by cases h; rfl⟩
  | ok ws => exact ⟨nofun, nofun⟩

/-- One document after another is taken, until one cannot be. -/
theorem ingestPages_eq_error_iff {b : Builder} {p : Pages} {ds : List DocId} :
    ingestPages b f p unseen ds = .error e ↔
      (∃ d ∈ ds, ∃ dir ∈ p.dirs.getD d [], Pages.Garbled f unseen dir) ∧ e = .inaccessible := by
  induction ds generalizing b with
  | nil => exact ⟨nofun, fun ⟨⟨_, h, _⟩, _⟩ => nomatch h⟩
  | cons d ds ih =>
    simp only [List.mem_cons, exists_eq_or_imp]
    exact bind_eq_error_iff (fun _ => ingestPage_eq_error_iff) fun _ => ih

/-- **The library cannot take the documents** of a directory that cannot be seen or listed, or in
which a file of words cannot be read or is no text, whatever was taken before. -/
theorem ofDirectory_eq_error_iff :
    ofDirectory f root unseen = .error e ↔ Unreadable f unseen root e := by
  unfold ofDirectory
  constructor
  · intro h
    cases hscan : Pages.scan f root unseen with
    | error e' =>
      rw [hscan] at h
      cases h
      exact .unscanned (Pages.scan_eq_error_iff.mp hscan)
    | ok pages =>
      rw [hscan] at h
      obtain ⟨⟨d, hd, dir, hdir, hgarbled⟩, rfl⟩ := ingestPages_eq_error_iff.mp h
      exact .garbled hscan hd hdir hgarbled
  · rintro (hunscanned | ⟨hscan, hd, hdir, hgarbled⟩)
    · rw [Pages.scan_eq_error_iff.mpr hunscanned]
      rfl
    · rw [hscan]
      exact ingestPages_eq_error_iff.mpr ⟨⟨_, hd, _, hdir, hgarbled⟩, rfl⟩

end Builder

end Concordance
