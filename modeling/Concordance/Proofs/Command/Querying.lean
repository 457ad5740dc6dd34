import Concordance.Command.Run
import Concordance.Proofs.Text.Boundaries
import Concordance.Proofs.Text.Trimming

/-!
# Where a query comes from

A query is given in the words of a command line, which are joined by spaces, or someone who is shown
the prompt types it on the first line of the input. Either way its text is the same but for white
space at its end, where a typed line may have a line feed, a carriage return before it or neither;
and white space around a query does not count. So the reply, which is what is shown and whether that
was done, is a function of the query alone (`SearchOptions.reply`), wherever it comes from (`Asks`).
The two ways part only where the prompt cannot be shown: then no line is read.

The command is `run` with `SearchArgs`; its line is read by `prompt`, which first writes to the
console and flushes it, each of which can fail.

* `typedQuery_line`, `typedQuery_last`: the query that a line is read as.
* `Asks.asked`: the query that is asked for.
* **`reply_congr`**, **`Asks.reply_runUnder`**: what the reply depends on.
* `reply_endings`: how a typed line ends does not count.
* `reply_unprompted`: what comes of it where the prompt cannot be shown.
* **`given_or_typed`**: words are replied to as the same text on a line.
-/

namespace Concordance.Command

variable {o : SearchOptions} {limits : SearchLimits} {paths : DataPaths} {f : FileTree}
variable {c : Collection} {input : List UInt8} {q q' : Text}

/-! ## The line that is typed -/

theorem takeWhile_bytes (hq : '\n' ∉ q) (after : List UInt8) :
    (Text.bytes q ++ after).takeWhile (· ≠ 10) = Text.bytes q ++ after.takeWhile (· ≠ 10) ∧
      (Text.bytes q ++ after).dropWhile (· ≠ 10) = after.dropWhile (· ≠ 10) := by
  have hne : ∀ b ∈ Text.bytes q, decide (b ≠ 10) = true := by
    intro b hb
    rw [decide_eq_true_eq]
    rintro rfl
    exact hq (Text.lineFeed_mem_bytes_iff.mp hb)
  exact ⟨List.takeWhile_append_of_pos hne, List.dropWhile_append_of_pos hne⟩

/-- **What is typed on a line** is read with its line feed, whatever comes after it. -/
theorem typedQuery_line (hq : '\n' ∉ q) (after : List UInt8) :
    typedQuery (Text.bytes q ++ 10 :: after) = .ok (q ++ ['\n']) := by
  obtain ⟨htake, hdrop⟩ := takeWhile_bytes hq (10 :: after)
  have hline : firstLine (Text.bytes q ++ 10 :: after) = Text.bytes (q ++ ['\n']) := by
    rw [firstLine, htake, hdrop, Text.bytes_append, List.takeWhile_cons_of_neg (by decide),
      List.dropWhile_cons_of_neg (by decide), List.append_nil]
    rfl
  rw [typedQuery, hline, Text.ofBytes?_bytes]

/-- A last line may lack its line feed. -/
theorem typedQuery_last (hq : '\n' ∉ q) : typedQuery (Text.bytes q) = .ok q := by
  obtain ⟨htake, hdrop⟩ := takeWhile_bytes hq []
  rw [List.append_nil] at htake hdrop
  have hline : firstLine (Text.bytes q) = Text.bytes q := by
    rw [firstLine, htake, hdrop, List.takeWhile_nil, List.dropWhile_nil, List.take_nil,
      List.append_nil, List.append_nil]
  rw [typedQuery, hline, Text.ofBytes?_bytes]

/-! ## What is asked for -/

namespace SearchLimits

theorem reads_append_lineFeed (limits : SearchLimits) (before after : List UInt8) :
    limits.reads (before ++ 10 :: after) = true := by
  rw [reads, Bool.or_eq_true, List.contains_iff_mem]
  exact .inl (List.mem_append_right _ List.mem_cons_self)

/-- Someone who is shown the prompt can type a line. -/
theorem ask_prompted (hprompt : limits.prompts = true) (hread : limits.reads input = true) :
    limits.ask input = typedQuery input := by
  rw [ask, hprompt, hread, Bool.and_self, if_pos rfl]

theorem ask_unprompted (hprompt : limits.prompts = false) :
    limits.ask input = .error Error.inaccessible.failure := by
  rw [ask, hprompt, Bool.false_and, if_neg Bool.false_ne_true]

end SearchLimits

namespace SearchOptions

theorem asked_words (hwords : o.query ≠ []) : o.asked limits input = .ok o.given := by
  rw [asked, if_neg fun h => hwords (List.isEmpty_iff.mp h)]

theorem asked_typed (hnil : o.query = []) : o.asked limits input = limits.ask input := by
  rw [asked, hnil, List.isEmpty_nil, if_pos rfl]

theorem console_words (hwords : o.query ≠ []) : o.console = [] := by
  rw [console, if_neg fun h => hwords (List.isEmpty_iff.mp h)]

end SearchOptions

/-- A query is given in words, or else someone who is shown the prompt types it, and then only its
line counts. -/
inductive Asks (o : SearchOptions) (limits : SearchLimits) (input : List UInt8) : Text → Prop where
  | words : o.query ≠ [] → Asks o limits input o.given
  | line {q : Text} {after : List UInt8} : o.query = [] → limits.prompts = true → '\n' ∉ q →
    input = Text.bytes q ++ 10 :: after → Asks o limits input q
  | last {q : Text} : o.query = [] → limits.prompts = true → limits.ends = true → '\n' ∉ q →
    input = Text.bytes q → Asks o limits input q

/-- What is asked for is the query, but for white space around it. -/
theorem Asks.asked (h : Asks o limits input q) :
    ∃ q', o.asked limits input = .ok q' ∧ Text.trim q' = Text.trim q := by
  cases h with
  | words hwords => exact ⟨o.given, SearchOptions.asked_words hwords, rfl⟩
  | @line _ after hnil hprompt hq hinput =>
    subst hinput
    refine ⟨q ++ ['\n'], ?_, Text.trim_append_right (by decide) q⟩
    rw [SearchOptions.asked_typed hnil,
      SearchLimits.ask_prompted hprompt (limits.reads_append_lineFeed _ after),
      typedQuery_line hq]
  | last hnil hprompt hends hq hinput =>
    subst hinput
    have hread : limits.reads (Text.bytes q) = true := by
      rw [SearchLimits.reads, hends, Bool.or_true]
    exact ⟨q, by rw [SearchOptions.asked_typed hnil, SearchLimits.ask_prompted hprompt hread,
      typedQuery_last hq], rfl⟩

/-! ## What is answered -/

/-- What is shown and whether that was done, without what is said at the console. -/
def Searched.reply (s : Searched) : List UInt8 × Except Failure Unit := (s.shown, s.outcome)

/-- The reply with a text, as far as there is room for it. -/
def Room.reply (room : Room) (t : Text) : List UInt8 × Except Failure Unit :=
  (room.take (Text.bytes t),
    if room.holds (Text.bytes t) then .ok () else .error Error.inaccessible.failure)

/-- The reply to a query. -/
def SearchOptions.reply (o : SearchOptions) (limits : SearchLimits) (paths : DataPaths)
    (f : FileTree) (q : Text) : List UInt8 × Except Failure Unit :=
  match o.collection paths f limits.unseen with
  | .error e => ([], .error e)
  | .ok c => limits.room.reply (answer c o.format q)

/-- **A reply depends on the query** without the white space around it. -/
theorem reply_congr (hq : Text.trim q = Text.trim q') :
    o.reply limits paths f q = o.reply limits paths f q' := by
  unfold SearchOptions.reply answer
  rw [hq]

/-- **A query is replied to** in one way, wherever it comes from. -/
theorem Asks.reply_runUnder (h : Asks o limits input q) (paths : DataPaths) (f : FileTree) :
    (o.runUnder limits paths f input).reply = o.reply limits paths f q := by
  obtain ⟨q', hasked, htrim⟩ := h.asked
  rw [← reply_congr htrim, SearchOptions.runUnder, SearchOptions.reply]
  cases o.collection paths f limits.unseen with
  | error e => rfl
  | ok c =>
    rw [hasked]
    rfl

/-- A typed line may end with a carriage return, and a last line without a line feed. -/
theorem reply_endings (hnil : o.query = []) (hprompt : limits.prompts = true)
    (hends : limits.ends = true) (hq : '\n' ∉ q) (after : List UInt8) (paths : DataPaths)
    (f : FileTree) :
    (o.runUnder limits paths f (Text.bytes q ++ 13 :: 10 :: after)).reply =
        o.reply limits paths f q ∧
      (o.runUnder limits paths f (Text.bytes q)).reply = o.reply limits paths f q := by
  have hreturn : '\n' ∉ q ++ ['\r'] := by simp [hq]
  have hbytes : Text.bytes q ++ 13 :: 10 :: after = Text.bytes (q ++ ['\r']) ++ 10 :: after := by
    rw [Text.bytes_append, List.append_assoc]
    rfl
  have htrim : Text.trim (q ++ ['\r']) = Text.trim q := Text.trim_append_right (by decide) q
  refine ⟨?_, (Asks.last hnil hprompt hends hq rfl).reply_runUnder paths f⟩
  rw [(Asks.line hnil hprompt hreturn hbytes).reply_runUnder, reply_congr htrim]

/-- **Where the prompt cannot be shown**, no line is read: once there is a collection, the search
fails without showing anything. -/
theorem reply_unprompted (hnil : o.query = []) (hprompt : limits.prompts = false)
    (paths : DataPaths) (f : FileTree) (input : List UInt8) :
    (o.runUnder limits paths f input).reply =
      ([], (o.collection paths f limits.unseen).bind fun _ =>
        .error Error.inaccessible.failure) := by
  have hasked : o.asked limits input = .error Error.inaccessible.failure := by
    rw [SearchOptions.asked_typed hnil, SearchLimits.ask_unprompted hprompt]
  rw [SearchOptions.runUnder, hasked]
  cases o.collection paths f limits.unseen <;> rfl

/-- Words are searched for without the console and the input. -/
theorem runUnder_congr {limits' : SearchLimits} (hwords : o.query ≠ [])
    (hunseen : limits'.unseen = limits.unseen) (hroom : limits'.room = limits.room)
    (paths : DataPaths) (f : FileTree) (input input' : List UInt8) :
    o.runUnder limits' paths f input' = o.runUnder limits paths f input := by
  have hconsole (room : Room) : room.take (Text.bytes o.console) = [] := by
    rw [SearchOptions.console_words hwords]
    cases room with
    | none => rfl
    | some n => exact List.take_nil
  simp only [SearchOptions.runUnder, SearchOptions.asked_words hwords, hconsole, hunseen, hroom]

/-- No report of hits is the notice of an empty query. -/
theorem hitReport_ne_emptyReport (q : Text) (hits : List Hit) (format : Format) :
    hitReport q hits format ≠ emptyReport := by
  have hstart : (hitReport q hits format).head? = some '\n' ∨
      (hitReport q hits format).head? = some '\x7b' := by
    cases format with
    | text => exact .inl rfl
    | json => exact .inr rfl
  intro h
  rw [h] at hstart
  exact absurd hstart (by decide)

theorem answer_eq_emptyReport_iff {format : Format} :
    answer c format q = emptyReport ↔ Text.isBlank q = true := by
  rw [← Text.trim_eq_nil_iff, answer]
  split
  · rename_i hempty
    exact iff_of_true rfl (List.isEmpty_iff.mp hempty)
  · rename_i hempty
    exact iff_of_false (hitReport_ne_emptyReport _ _ _) fun h => hempty (List.isEmpty_iff.mpr h)

/-! ## Where nothing is refused -/

/-- What a search leaves behind, in bytes. -/
def Result.searched (r : Result) : Searched :=
  ⟨Text.bytes r.shown, Text.bytes r.console, r.outcome.map fun _ => ()⟩

/-- Where the system refuses nothing, this is what is left behind, and the files are as before. -/
theorem SearchOptions.run_eq (o : SearchOptions) (paths : DataPaths) (f : FileTree)
    (input : List UInt8) :
    (o.run paths f input).tree = f ∧
      (o.run paths f input).searched = o.runUnder .none paths f input := by
  have hunseen : SearchLimits.none.unseen = .none := rfl
  rw [SearchOptions.run, SearchOptions.runUnder, hunseen]
  cases o.collection paths f .none with
  | error e => exact ⟨rfl, rfl⟩
  | ok c => cases o.asked .none input <;> exact ⟨rfl, rfl⟩

/-! ## Given or typed -/

/-- **A query may be given or typed**: how searching for the words of a command line compares with
searching for what is typed, whatever the system refuses. -/
structure GivenOrTyped (o : SearchOptions) (paths : DataPaths) (f : FileTree) : Prop where
  /-- The words, joined by spaces, are replied to as the same text on the first line of the input,
  whatever comes after it, if the prompt can be shown. -/
  typed : '\n' ∉ o.given → ∀ limits : SearchLimits, limits.prompts = true →
    ∀ input after : List UInt8,
      ({ o with query := [] }.runUnder limits paths f (Text.bytes o.given ++ 10 :: after)).reply =
        (o.runUnder limits paths f input).reply
  /-- If the prompt cannot be shown, nothing else is, and no line is read. -/
  unprompted : ∀ limits : SearchLimits, limits.prompts = false → ∀ input : List UInt8,
    ({ o with query := [] }.runUnder limits paths f input).reply =
      ([], (o.collection paths f limits.unseen).bind fun _ => .error Error.inaccessible.failure)
  /-- For words, neither the console nor the input counts. -/
  apart : ∀ limits limits' : SearchLimits, limits'.unseen = limits.unseen →
    limits'.room = limits.room → ∀ input input' : List UInt8,
      o.runUnder limits' paths f input' = o.runUnder limits paths f input
  /-- What counts is the joined words without the white space around them. -/
  trimmed : ∀ words : List Text, words ≠ [] →
    Text.trim { o with query := words }.given = Text.trim o.given →
    ∀ (limits : SearchLimits) (input input' : List UInt8),
      ({ o with query := words }.runUnder limits paths f input').reply =
        (o.runUnder limits paths f input).reply
  /-- The reply is the answer to them, as far as there is room for it. -/
  answered : ∀ (limits : SearchLimits) (input : List UInt8) (c),
    o.collection paths f limits.unseen = .ok c →
      (o.runUnder limits paths f input).reply = limits.room.reply (answer c o.format o.given)
  /-- If nothing is left of them, the notice of an empty query is shown. -/
  notice : Text.isBlank o.given = true → ∀ (limits : SearchLimits) (input : List UInt8) (c),
    o.collection paths f limits.unseen = .ok c →
      (o.runUnder limits paths f input).reply = limits.room.reply emptyReport
  /-- Where there is no end to the room, the search is done, and the notice is shown for nothing
  else. -/
  done : ∀ limits : SearchLimits, limits.room = none → ∀ (input : List UInt8) (c),
    o.collection paths f limits.unseen = .ok c →
      (o.runUnder limits paths f input).outcome = .ok () ∧
        ((o.runUnder limits paths f input).shown = Text.bytes emptyReport ↔
          Text.isBlank o.given = true)
  /-- Without a collection to search nothing is shown. -/
  unopened : ∀ (limits : SearchLimits) (input : List UInt8) (e),
    o.collection paths f limits.unseen = .error e →
      (o.runUnder limits paths f input).reply = ([], .error e)
  /-- Where nothing is refused, these are the runs that show text; they change no file. -/
  free : ∀ (words : List Text) (input : List UInt8),
    ({ o with query := words }.run paths f input).tree = f ∧
      ({ o with query := words }.run paths f input).searched =
        { o with query := words }.runUnder .none paths f input

/-- Words are replied to as the same text on a line of the input, where the prompt can be shown. -/
theorem given_or_typed (hwords : o.query ≠ []) (paths : DataPaths) (f : FileTree) :
    GivenOrTyped o paths f := by
  have hgiven (limits : SearchLimits) (input : List UInt8) :
      (o.runUnder limits paths f input).reply = o.reply limits paths f o.given :=
    (Asks.words hwords).reply_runUnder paths f
  exact {
    typed := fun hline limits hprompt input after => by
      have htyped : Asks { o with query := [] } limits (Text.bytes o.given ++ 10 :: after)
          o.given := .line rfl hprompt hline rfl
      rw [htyped.reply_runUnder, hgiven]
      rfl
    unprompted := fun limits hprompt input => reply_unprompted rfl hprompt paths f input
    apart := fun limits limits' hunseen hroom input input' =>
      runUnder_congr hwords hunseen hroom paths f input input'
    trimmed := fun words hne htrim limits input input' => by
      have hother : Asks { o with query := words } limits input' { o with query := words }.given :=
        .words hne
      rw [hother.reply_runUnder, hgiven, reply_congr htrim]
      rfl
    answered := fun limits input c hload => by rw [hgiven, SearchOptions.reply, hload]
    notice := fun hblank limits input c hload => by
      rw [hgiven, SearchOptions.reply, hload]
      exact congrArg limits.room.reply (answer_eq_emptyReport_iff.mpr hblank)
    done := fun limits hroom input c hload => by
      have hreply := hgiven limits input
      rw [SearchOptions.reply, hload, hroom] at hreply
      have hshown : (o.runUnder limits paths f input).shown =
          Text.bytes (answer c o.format o.given) := congrArg Prod.fst hreply
      refine ⟨congrArg Prod.snd hreply, ?_⟩
      rw [hshown, Text.bytes_inj, answer_eq_emptyReport_iff]
    unopened := fun limits input e hload => by rw [hgiven, SearchOptions.reply, hload]
    free := fun words input => SearchOptions.run_eq _ paths f input }

/-- An index with one word. -/
def shelved : FileTree :=
  (⟨∅, [], 0o022⟩ : FileTree).put [['x']] (.file 0o644 (Text.toBytes "cat 2 1\n".toList))

/-- Words with white space between and around them, and the same words typed before bytes that
encode no text, where a part of the reply is all that can be shown; typed where the prompt cannot be
shown; and words of white space alone. -/
theorem given_or_typed_spaced :
    let paths : DataPaths := ⟨[], [], []⟩
    let o : SearchOptions := ⟨some ['x'], none, .text, ["\u2003cat".toList, "OR dog\r".toList]⟩
    let typed : SearchOptions := { o with query := [] }
    let input : List UInt8 := Text.bytes o.given ++ [10, 255]
    let narrow : SearchLimits := { SearchLimits.none with room := some 5, console := some 200 }
    (o.runUnder narrow paths shelved []).shown = Text.bytes "\nFoun".toList ∧
      (typed.runUnder narrow paths shelved input).reply =
        (o.runUnder narrow paths shelved []).reply ∧
      (typed.runUnder { narrow with flushes := false } paths shelved input).reply =
        ([], .error Error.inaccessible.failure) ∧
      ({ o with query := ["cat OR dog".toList] }.runUnder narrow paths shelved []).reply =
        (o.runUnder narrow paths shelved []).reply ∧
      ({ o with query := ["\t".toList, []] }.runUnder narrow paths shelved []).reply =
        (Text.bytes "Empty".toList, .error Error.inaccessible.failure) := by
  intro paths o typed input narrow
  have hgiven : GivenOrTyped o paths shelved := given_or_typed (by decide) paths shelved
  have hblank : GivenOrTyped { o with query := ["\t".toList, []] } paths shelved :=
    given_or_typed (by decide) paths shelved
  have hopen : ∃ c, o.collection paths shelved = .ok c := by
    have hok : (o.collection paths shelved).isOk = true := by decide +kernel
    cases hload : o.collection paths shelved with
    | error e => rw [hload] at hok; cases hok
    | ok c => exact ⟨c, rfl⟩
  obtain ⟨c, hload⟩ := hopen
  refine ⟨by decide +kernel, hgiven.typed (by decide) narrow (by decide +kernel) [] [255], ?_,
    hgiven.trimmed _ (by decide) (by decide) narrow [] [], ?_⟩
  · rw [hgiven.unprompted { narrow with flushes := false } (by decide +kernel) input]
    change ([], (o.collection paths shelved).bind _) = _
    rw [hload]
    rfl
  · rw [hblank.notice (by decide) narrow [] c hload]
    exact Prod.ext (by decide +kernel) rfl

end Concordance.Command
