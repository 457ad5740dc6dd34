import Concordance.File.Tree
import Concordance.Proofs.Text.Cutting

/-!
# The places that paths name

From a directory, a path names the place to which its names lead one after the other. Names that
lead upward and links are taken as they are written, so this is where one looks for a path, not yet
what is found there.

* **`placeFrom_join`**: a path under a base is under the place of the base.
* **`placeFrom_of_fileName`**: a path with a last name is directly in its directory.
-/

namespace Concordance.Path

open FileTree (start)

variable {a b p name : Text} {dir : Place} {ds : List Text}

/-! ## The names along a path -/

/-- The names along a path that lead somewhere. -/
def trail (p : Text) : List Text := (Text.pieces (· == '/') p).filter (!isVoid ·)

theorem trail_append (a b : Text) : trail (a ++ '/' :: b) = trail a ++ trail b := by
  rw [trail, Text.pieces_append rfl, List.filter_append, trail, trail]

theorem trail_of_not_mem (hslash : '/' ∉ name) (hvoid : isVoid name = false) :
    trail name = [name] := by
  rw [trail, Text.pieces_of_not_mem hslash, List.filter_cons_of_pos (by rw [hvoid]; rfl)]
  rfl

theorem isVoid_of_length (h : 1 < name.length) : isVoid name = false := by
  rw [isVoid, Bool.or_eq_false_iff, decide_eq_false_iff_not, decide_eq_false_iff_not]
  constructor
  · rintro rfl
    cases h
  · rintro rfl
    exact absurd h (by decide)

theorem isAbsolute_cons (c : Char) (p : Text) : isAbsolute (c :: p) = (c == '/') := by
  unfold isAbsolute
  split
  case h_1 h => cases h; rfl
  case h_2 h => exact (beq_eq_false_iff_ne.mpr fun e => h p (by rw [e])).symm

theorem isAbsolute_of_not_mem (hslash : '/' ∉ name) : isAbsolute name = false := by
  cases name with
  | nil => rfl
  | cons c name =>
    rw [isAbsolute_cons]
    exact beq_eq_false_iff_ne.mpr fun e => hslash (e ▸ List.mem_cons_self)

/-- Of a path under a base, the parts that are kept are those of the base and those of the path,
if nothing empty is kept. -/
theorem filter_pieces_join {keep : Text → Bool} (hkeep : keep [] = false)
    (hb : isAbsolute b = false) : (Text.pieces (· == '/') (join a b)).filter keep =
      (Text.pieces (· == '/') a).filter keep ++ (Text.pieces (· == '/') b).filter keep := by
  have hnil : [[]].filter keep = [] := List.filter_cons_of_neg (by rw [hkeep]; nofun)
  unfold join
  rw [hb, if_neg nofun]
  split
  case h_1 ha =>
    rw [List.getLast?_eq_none_iff.mp ha, Text.pieces, hnil]
    rfl
  case h_2 ha =>
    obtain ⟨a', rfl⟩ := List.getLast?_eq_some_iff.mp ha
    rw [List.append_assoc, List.singleton_append, Text.pieces_append rfl, Text.pieces_append rfl,
      List.filter_append, List.filter_append, Text.pieces, hnil, List.append_nil]
  case h_3 => rw [Text.pieces_append rfl, List.filter_append]

theorem trail_join (hb : isAbsolute b = false) : trail (join a b) = trail a ++ trail b :=
  filter_pieces_join rfl hb

theorem isAbsolute_join (hb : isAbsolute b = false) : isAbsolute (join a b) = isAbsolute a := by
  unfold join
  rw [hb, if_neg nofun]
  cases a with
  | nil => exact hb
  | cons c a =>
    split
    · rename_i ha
      cases List.getLast?_eq_none_iff.mp ha
    · rw [List.cons_append, isAbsolute_cons, isAbsolute_cons]
    · rw [List.cons_append, isAbsolute_cons, isAbsolute_cons]

/-! ## Places -/

/-- The place that a path names from a directory. -/
def placeFrom (dir : Place) (p : Text) : Place := start dir p ++ trail p

/-- A path under a base names a place under that of the base. -/
theorem placeFrom_join (hb : isAbsolute b = false) :
    placeFrom dir (join a b) = placeFrom dir a ++ trail b := by
  rw [placeFrom, start, isAbsolute_join hb, trail_join hb, ← List.append_assoc]
  rfl

theorem placeFrom_directory (dir : Place) (p : Text) :
    placeFrom dir (directory p) = placeFrom dir ((parent? p).getD []) := by
  unfold directory
  cases parent? p with
  | none => rfl
  | some d => cases d <;> rfl

/-- A path with another last name is in the same directory. -/
theorem placeFrom_withName (hslash : '/' ∉ name) (hvoid : isVoid name = false) :
    placeFrom dir (withName p name) = placeFrom dir (directory p) ++ [name] := by
  rw [withName, placeFrom_join (isAbsolute_of_not_mem hslash), placeFrom_directory,
    trail_of_not_mem hslash hvoid]

/-! ## The directory of a path -/

theorem prefix_dropVoid (qs : List Text) : dropVoid qs <+: qs := by
  rw [dropVoid, ← List.reverse_suffix, List.reverse_reverse]
  exact List.dropWhile_suffix isVoid

/-- Parts that name nothing lead nowhere. -/
theorem filter_dropVoid (qs : List Text) :
    (dropVoid qs).filter (!isVoid ·) = qs.filter (!isVoid ·) := by
  have hdrop (l : List Text) : (l.dropWhile isVoid).filter (!isVoid ·) = l.filter (!isVoid ·) := by
    induction l with
    | nil => rfl
    | cons w l ih =>
      cases hw : isVoid w with
      | true =>
        rw [List.dropWhile_cons_of_pos hw, ih, List.filter_cons_of_neg (by rw [hw]; nofun)]
      | false => rw [List.dropWhile_cons_of_neg (by rw [hw]; nofun)]
  rw [dropVoid, List.filter_reverse, hdrop, ← List.filter_reverse, List.reverse_reverse]

/-- The last part of a path names something. -/
theorem isVoid_of_parts {init : List Text} (h : parts p = init ++ [name]) : isVoid name = false := by
  have hlast := List.head?_dropWhile_not isVoid (Text.pieces (· == '/') (splitBase p).2).reverse
  rw [← List.getLast?_reverse, ← dropVoid, ← parts, h, List.getLast?_concat] at hlast
  exact hlast

/-- What the base of a path can be. -/
theorem splitBase_cases (p : Text) :
    (∃ t, p = '/' :: t ∧ splitBase p = (['/'], t)) ∨
      (∃ t, p = '.' :: '/' :: t ∧ splitBase p = (['.'], '/' :: t)) ∨
      (p = ['.'] ∧ splitBase p = (['.'], [])) ∨
      (isAbsolute p = false ∧ splitBase p = ([], p)) := by
  unfold splitBase
  split
  case h_1 t => exact .inl ⟨t, rfl, rfl⟩
  case h_2 => exact .inr (.inr (.inl ⟨rfl, rfl⟩))
  case h_3 t => exact .inr (.inl ⟨t, rfl, rfl⟩)
  case h_4 hslash _ _ =>
    refine .inr (.inr (.inr ⟨?_, rfl⟩))
    unfold isAbsolute
    split
    · exact absurd rfl (hslash _)
    · rfl

theorem isAbsolute_of_isPrefix (hp : isAbsolute p = false) (h : a <+: p) :
    isAbsolute a = false := by
  obtain ⟨t, rfl⟩ := h
  cases a with
  | nil => rfl
  | cons c a =>
    rw [List.cons_append, isAbsolute_cons] at hp
    rw [isAbsolute_cons, hp]

theorem trail_joined (h : ds <+: Text.pieces (· == '/') p) :
    trail (Text.join ['/'] ds) = ds.filter (!isVoid ·) := by
  cases ds with
  | nil => rfl
  | cons d ds =>
    have hslash : ∀ w ∈ d :: ds, '/' ∉ w := fun w hw hc =>
      nomatch Text.eq_false_of_mem_pieces (h.subset hw) hc
    rw [trail, Text.pieces_join (List.cons_ne_nil d ds) hslash]

/-- The first parts of a path are absolute if the path is. -/
theorem isAbsolute_ofParts (h : ds <+: Text.pieces (· == '/') (splitBase p).2) :
    isAbsolute (ofParts (splitBase p).1 ds) = isAbsolute p := by
  rcases splitBase_cases p with ⟨t, rfl, hp⟩ | ⟨t, rfl, hp⟩ | ⟨rfl, hp⟩ | ⟨hrel, hp⟩
  case inr.inr.inr =>
    rw [hp] at h ⊢
    obtain ⟨es, hes⟩ := h
    have hstart := Text.prefix_join ['/'] ds es
    rw [hes, Text.join_pieces] at hstart
    rw [hrel]
    exact isAbsolute_of_isPrefix hrel hstart
  all_goals
    rw [hp]
    rfl

/-- The first parts of a path lead where they lead on the path. -/
theorem trail_ofParts (h : ds <+: Text.pieces (· == '/') (splitBase p).2) :
    trail (ofParts (splitBase p).1 ds) = ds.filter (!isVoid ·) := by
  have hjoined := trail_joined h
  rcases splitBase_cases p with ⟨t, rfl, hp⟩ | ⟨t, rfl, hp⟩ | ⟨rfl, hp⟩ | ⟨-, hp⟩
  all_goals rw [hp] at h ⊢
  · exact hjoined
  · -- The first part after a dot is empty, so that a slash follows the dot.
    cases ds with
    | nil => rfl
    | cons d ds =>
      obtain ⟨rfl, -⟩ := List.cons_prefix_cons.mp h
      cases ds with
      | nil => rfl
      | cons e ds => exact (trail_append ['.'] _).trans ((trail_append [] _).symm.trans hjoined)
  · rcases List.prefix_concat_iff.mp (show ds <+: [] ++ [[]] from h) with rfl | hnil
    · rfl
    · rw [List.prefix_nil.mp hnil]
      rfl
  · exact hjoined

theorem splitBase_append (p : Text) : (splitBase p).1 ++ (splitBase p).2 = p := by
  rcases splitBase_cases p with ⟨t, rfl, hp⟩ | ⟨t, rfl, hp⟩ | ⟨rfl, hp⟩ | ⟨-, hp⟩
  all_goals
    rw [hp]
    rfl

/-- A path leads where its parts lead. -/
theorem trail_eq_parts (p : Text) : trail p = (parts p).filter (!isVoid ·) := by
  have hparts := trail_ofParts (p := p) List.prefix_rfl
  rwa [ofParts, Text.join_pieces, splitBase_append, ← filter_dropVoid] at hparts

/-- The parent of a path with a last name has the parts before it. -/
theorem exists_parent (h : fileName? p = some name) :
    ∃ init, parts p = init ++ [name] ∧ parent? p = some (ofParts (splitBase p).1 (dropVoid init)) ∧
      dropVoid init <+: Text.pieces (· == '/') (splitBase p).2 := by
  have hlast : (parts p).getLast? = some name := by
    unfold fileName? at h
    split at h
    · cases h
    · exact h
  obtain ⟨init, hinit⟩ := List.getLast?_eq_some_iff.mp hlast
  refine ⟨init, hinit, ?_, ?_⟩
  · unfold parent?
    rw [hinit]
    dsimp only
    split
    · rename_i hnil
      exact absurd hnil (by simp)
    · rw [List.dropLast_concat]
  · have hinits : init <+: parts p := hinit ▸ List.prefix_append init [name]
    exact (prefix_dropVoid init).trans (hinits.trans (prefix_dropVoid _))

theorem not_mem_fileName (h : fileName? p = some name) : '/' ∉ name := by
  obtain ⟨init, hinit, -⟩ := exists_parent h
  have hmem : name ∈ parts p := hinit ▸ List.mem_append_right init (List.mem_singleton_self name)
  exact fun hc => nomatch Text.eq_false_of_mem_pieces ((prefix_dropVoid _).subset hmem) hc

/-- The directory of a path with a last name is absolute if the path is. -/
theorem isAbsolute_parent (h : fileName? p = some name) :
    isAbsolute ((parent? p).getD []) = isAbsolute p := by
  obtain ⟨init, -, hparent, hstart⟩ := exists_parent h
  rw [hparent, Option.getD_some, isAbsolute_ofParts hstart]

/-- **A path with a last name is directly in its directory.** -/
theorem placeFrom_of_fileName (h : fileName? p = some name) :
    placeFrom dir p = placeFrom dir (directory p) ++ [name] := by
  obtain ⟨init, hinit, hparent, hstart⟩ := exists_parent h
  have hname := isVoid_of_parts hinit
  rw [placeFrom_directory, hparent, Option.getD_some, placeFrom, placeFrom, start, start,
    isAbsolute_ofParts hstart, trail_ofParts hstart, filter_dropVoid, trail_eq_parts, hinit,
    List.filter_append, List.append_assoc]
  congr 2
  exact List.filter_cons_of_pos (by rw [hname]; rfl)

end Concordance.Path
