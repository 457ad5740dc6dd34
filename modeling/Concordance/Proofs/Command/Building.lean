import Concordance.Command.Run
import Concordance.Proofs.File.Saving
import Concordance.Proofs.Pages.Failing
import Concordance.Proofs.Text.Numbers

/-!
# What the command that builds an index leaves behind

The command takes the documents one by one, to show how far it has come, where the library takes
them all (`Builder.ofDirectory`). Both take the same, in the files as they were before
(`gather_eq`). What is taken is then written and reported, and each of these steps can fail:

* If the words cannot be taken (`Unreadable`), nothing has been changed or shown.
* If the index cannot be put in its place, there may be new directories, but nothing is shown and
  what was there before is there as it was.
* If the report cannot be shown to its end, the index is in its place.

A path such as `n/../f`, with no `n` at first, leads nowhere before and to `f` once the directories
are made, which they may be although nothing is written in the end.

* **`buildReport_inj`**: a report tells the numbers.
* **`BuildOptions.runUnder_outcome`**: what can come of building, whatever the system refuses.

The command is `run` with `BuildArgs`, and the library's way is `IndexBuilder.build` with a
`DirLemmaSource`.
-/

namespace Concordance

open FileTree (Refusals Hindered Replaced Unseen lineage)

namespace Command

theorem foldlM_ingestPage (f : FileTree) (p : Pages) (unseen : Unseen) (ds : List DocId)
    (b : Builder) :
    ds.foldlM (fun b d => (b.ingestPage f p d unseen).mapError Error.failure) b =
      (b.ingestPages f p unseen ds).mapError Error.failure := by
  induction ds generalizing b with
  | nil => rfl
  | cons d ds ih =>
    rw [List.foldlM_cons, Builder.ingestPages]
    cases b.ingestPage f p d unseen with
    | error e => rfl
    | ok c => exact ih c

/-- **The command takes what the library takes**, and says of a directory that is not scanned what
is to be done. -/
theorem gather_eq (f : FileTree) (root : Text) (unseen : Unseen) :
    gather f root unseen = (Builder.ofDirectory f root unseen).mapError fun e =>
      ⟨e, if (Pages.scan f root unseen).isOk then [] else [openingPages root]⟩ := by
  unfold gather Builder.ofDirectory
  cases Pages.scan f root unseen with
  | error e => rfl
  | ok pages => exact foldlM_ingestPage f pages unseen _ ∅

/-! ## The report -/

/-- **A report tells the numbers**, whatever the file is called. -/
theorem buildReport_inj {p q : Text} {s t : Stats} (h : buildReport p s = buildReport q t) :
    s = t := by
  -- The numbers are read off from the last to the first.
  have hlines := List.append_cancel_right h
  obtain ⟨hpages, hwords⟩ :=
    Text.append_toDecimal_inj " without lemmas)\n📊 Unique terms: ".toList rfl hlines
  obtain ⟨hfirst, hwithout⟩ := Text.append_toDecimal_inj " (".toList rfl hpages
  obtain ⟨-, hdocuments⟩ := Text.append_toDecimal_inj "\n📊 Pages: ".toList rfl hfirst
  exact Stats.ext hdocuments hwithout hwords

/-! ## What can come of building -/

/-- The index of a builder is in the file at the end of a path, and else there are at most new
directories on the way. -/
def Wrote (refuses : Refusals) (f h : FileTree) (output : Text) (b : Builder) : Prop :=
  ∃ g r, f.Paves g (lineage (Path.directory output)) ∧
    Replaced refuses g h output (Text.toBytes b.index.toText) r

/-- **What can come of building** an index from a directory. -/
inductive Built.Outcome (limits : Limits) (f : FileTree) (lemmaDir output : Text) :
    Built → Prop where
  /-- The words cannot be taken: nothing is changed or shown. -/
  | unread {e : Error} : Builder.ofDirectory f lemmaDir limits.unseen = .error e →
    Outcome limits f lemmaDir output ⟨f, [], .error
      ⟨e, if (Pages.scan f lemmaDir limits.unseen).isOk then [] else [openingPages lemmaDir]⟩⟩
  /-- The index cannot be written: there are at most new directories. The path leads to what it led
  to before; if that was nothing, it is to something as it was before, or to a new directory. -/
  | unwritten {b : Builder} {g : FileTree} :
    Builder.ofDirectory f lemmaDir limits.unseen = .ok b →
    f.Paves g (lineage (Path.directory output)) → Hindered limits.refuses f g output →
    (∀ e, f.find? output = some e → g.find? output = some e) →
    (∀ r node, g.find? output = some (r, node) →
      f.node? r = some node ∨ node = .dir (f.masked 0o777)) →
    Outcome limits f lemmaDir output ⟨g, [], .error ⟨.inaccessible, [writingIndex output]⟩⟩
  /-- The report cannot be shown to its end: the index is written. -/
  | unshown {b : Builder} {h : FileTree} {start rest : List UInt8} :
    Builder.ofDirectory f lemmaDir limits.unseen = .ok b → Wrote limits.refuses f h output b →
    start ++ rest = Text.bytes (buildReport output b.stats) → rest ≠ [] →
    limits.room = some start.length →
    Outcome limits f lemmaDir output ⟨h, start, .error ⟨.inaccessible, []⟩⟩
  /-- The index is written, and the report shows what the builder has counted. -/
  | done {b : Builder} {h : FileTree} : Builder.ofDirectory f lemmaDir limits.unseen = .ok b →
    Wrote limits.refuses f h output b →
    Outcome limits f lemmaDir output ⟨h, Text.bytes (buildReport output b.stats), .ok b.stats⟩

/-- Bytes are all shown, or there is an end to the room within them. -/
theorem Room.holds_or (room : Room) (bytes : List UInt8) :
    (room.holds bytes = true ∧ room.take bytes = bytes) ∨
      (room.holds bytes = false ∧ room = some (room.take bytes).length ∧
        ∃ rest ≠ [], room.take bytes ++ rest = bytes) := by
  cases room with
  | none => exact .inl ⟨rfl, rfl⟩
  | some n =>
    rcases Nat.lt_or_ge n bytes.length with hlt | hle
    · refine .inr ⟨decide_eq_false (Nat.not_le.mpr hlt), ?_, bytes.drop n, ?_,
        List.take_append_drop n bytes⟩
      · rw [take, List.length_take_of_le (Nat.le_of_lt hlt)]
      · exact List.ne_nil_of_length_pos (by rw [List.length_drop]; omega)
    · exact .inl ⟨decide_eq_true hle, List.take_of_length_le hle⟩

namespace BuildOptions

variable {o : BuildOptions} {limits : Limits} {paths : DataPaths}

/-- What is written is what the library takes, where it is to be written; or it is told why not. -/
theorem write_cases (o : BuildOptions) (limits : Limits) (paths : DataPaths) (f : FileTree) :
    (∃ e, Builder.ofDirectory f (o.source paths) limits.unseen = .error e ∧
      o.write limits paths f = (f, .error ⟨e,
        if (Pages.scan f (o.source paths) limits.unseen).isOk then []
        else [openingPages (o.source paths)]⟩)) ∨
    ∃ b, Builder.ofDirectory f (o.source paths) limits.unseen = .ok b ∧
      ((∃ g, f.Paves g (lineage (Path.directory (o.target paths))) ∧
        Hindered limits.refuses f g (o.target paths) ∧ o.write limits paths f =
          (g, .error ⟨.inaccessible, [writingIndex (o.target paths)]⟩)) ∨
      ∃ h, Wrote limits.refuses f h (o.target paths) b ∧
        o.write limits paths f = (h, .ok b.stats)) := by
  unfold write
  rw [gather_eq]
  cases Builder.ofDirectory f (o.source paths) limits.unseen with
  | error e => exact .inl ⟨e, rfl, rfl⟩
  | ok b =>
    have hsaved :=
      f.replaceFile_outcome limits.refuses (o.target paths) (Text.toBytes b.index.toText)
    have hgathered (k : Error → Failure) : (Except.ok b).mapError k = .ok b := rfl
    refine .inr ⟨b, rfl, ?_⟩
    simp only [hgathered, Builder.saveUnder, Index.saveUnder]
    generalize f.replaceFile limits.refuses (o.target paths) (Text.toBytes b.index.toText) = saved
      at *
    cases hsaved with
    | failed hpaves hhindered => exact .inl ⟨_, hpaves, hhindered, rfl⟩
    | saved hpaves _ hreplaced => exact .inr ⟨_, ⟨_, _, hpaves, hreplaced⟩, rfl⟩

theorem outcome (o : BuildOptions) (limits : Limits) (paths : DataPaths) (f : FileTree) :
    Built.Outcome limits f (o.source paths) (o.target paths) (o.runUnder limits paths f) := by
  unfold runUnder
  rcases o.write_cases limits paths f with
    ⟨e, hread, hwrite⟩ | ⟨b, hread, ⟨g, hpaves, hhindered, hwrite⟩ | ⟨h, hwrote, hwrite⟩⟩
  · rw [hwrite]
    exact .unread hread
  · rw [hwrite]
    exact .unwritten hread hpaves hhindered
      (fun _ => FileTree.find?_mono hpaves.within hpaves.here) fun _ _ => hpaves.found
  · rw [hwrite]
    dsimp only
    rcases limits.room.holds_or (Text.bytes (buildReport (o.target paths) b.stats)) with
      ⟨hholds, htake⟩ | ⟨hholds, hroom, rest, hrest, hreport⟩
    · rw [hholds, htake]
      exact .done hread hwrote
    · rw [hholds]
      exact .unshown hread hwrote hreport hrest hroom

/-- Numbers that can be read off what was shown are those that are returned, if there is no end to
the room. -/
theorem outcome_of_shown {q : Text} {s : Stats} (hroom : limits.room = none)
    (h : (o.runUnder limits paths f).shown = Text.bytes (buildReport q s)) :
    (o.runUnder limits paths f).outcome = .ok s := by
  have houtcome := o.outcome limits paths f
  have hne : Text.bytes (buildReport q s) ≠ Text.bytes [] := fun hnil =>
    List.append_ne_nil_of_right_ne_nil _ (List.cons_ne_nil '\n' []) (Text.bytes_inj.mp hnil)
  generalize o.runUnder limits paths f = built at *
  cases houtcome with
  | unread | unwritten => exact absurd h.symm hne
  | unshown _ _ _ _ hend =>
    rw [hroom] at hend
    cases hend
  | done =>
    dsimp only at h
    rw [buildReport_inj (Text.bytes_inj.mp h)]

/-- Where the system refuses nothing, this is what is left behind, and nothing is said at the
console. -/
theorem run_eq (o : BuildOptions) (paths : DataPaths) (f : FileTree) :
    (o.run paths f).tree = (o.runUnder .none paths f).tree ∧
      Text.bytes (o.run paths f).shown = (o.runUnder .none paths f).shown ∧
      (o.run paths f).console = [] ∧
      (o.run paths f).outcome = (o.runUnder .none paths f).outcome.map some := by
  unfold run runUnder
  rcases o.write .none paths f with ⟨g, e | stats⟩
  · exact ⟨rfl, rfl, rfl, rfl⟩
  · simp only [Limits.none, Room.take, Room.holds, if_true]
    exact ⟨trivial, trivial, trivial, rfl⟩

/-- **Building an index is all or nothing** up to the report, and what it writes, shows and returns
is what the library takes from the directory as it was before. The library fails for a directory
that cannot be scanned and for a file of words that cannot be read or is no text. -/
theorem runUnder_outcome (o : BuildOptions) (limits : Limits) (paths : DataPaths) (f : FileTree) :
    Built.Outcome limits f (o.source paths) (o.target paths) (o.runUnder limits paths f) ∧
      (∀ e, Builder.ofDirectory f (o.source paths) limits.unseen = .error e ↔
        Unreadable f limits.unseen (o.source paths) e) ∧
      (limits.room = none → ∀ q s,
        (o.runUnder limits paths f).shown = Text.bytes (buildReport q s) →
        (o.runUnder limits paths f).outcome = .ok s) ∧
      (o.run paths f).tree = (o.runUnder .none paths f).tree ∧
      Text.bytes (o.run paths f).shown = (o.runUnder .none paths f).shown ∧
      (o.run paths f).console = [] ∧
      (o.run paths f).outcome = (o.runUnder .none paths f).outcome.map some :=
  ⟨o.outcome limits paths f, fun _ => Builder.ofDirectory_eq_error_iff,
    fun hroom _ _ => outcome_of_shown hroom, o.run_eq paths f⟩

/-- A directory without documents, a file, and a directory with a link to it. -/
def furnished : FileTree :=
  ((((⟨∅, [], 0o022⟩ : FileTree).put [['p']] (.dir 0o755)).put [['d']] (.dir 0o755)).put [['l']]
    (.link ['d'])).put [['f']] (.file 0o640 ⟨#[111]⟩)

/-- What building an index of no documents leaves behind. -/
def furnishedWith (refuses : Refusals) (room : Room) (output : Text) : Built :=
  runUnder ⟨some ['p'], some output⟩ ⟨.none, refuses, room⟩ ⟨[], [], []⟩ furnished

/-- An index can fail to be written and yet its path lead to a file afterwards that it did not lead
to before; it can be written and not be at its path, when the link that the path goes through is
replaced; and it can be written although a part of the report is all that can be shown. -/
theorem runUnder_partly :
    ((furnishedWith (· = .makeTemp) none "n/../f".toList).outcome =
          .error ⟨.inaccessible, [writingIndex "n/../f".toList]⟩ ∧
        furnished.bytes? "n/../f".toList = none ∧ furnished.mode? "n/../f".toList = none ∧
        (furnishedWith (· = .makeTemp) none "n/../f".toList).tree.bytes? "n/../f".toList =
          some ⟨#[111]⟩ ∧
        (furnishedWith (· = .makeTemp) none "n/../f".toList).tree.mode? "n/../f".toList =
          some 0o640) ∧
      ((furnishedWith .none none "l/../l".toList).outcome = .ok ⟨0, 0, 0⟩ ∧
        (furnishedWith .none none "l/../l".toList).tree.isFile "l/../l".toList = false) ∧
      (furnishedWith .none (some 3) ['f']).outcome = .error ⟨.inaccessible, []⟩ ∧
        (furnishedWith .none (some 3) ['f']).shown = [0xe2, 0x9c, 0x85] ∧
        furnished.bytes? ['f'] = some ⟨#[111]⟩ ∧
        (furnishedWith .none (some 3) ['f']).tree.bytes? ['f'] = some .empty :=
  ⟨⟨rfl, by decide, by decide, by decide, by decide⟩, ⟨rfl, by decide⟩, rfl, by decide, by decide,
    by decide⟩

end BuildOptions

end Command

end Concordance
