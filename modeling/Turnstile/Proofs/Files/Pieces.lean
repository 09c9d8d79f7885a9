import Turnstile.Proofs.Files.Creation
/-!
# Pieces — a relative path, and its spelling

A path that is read in a directory can be spelled out: the text of the
directory before it (`Path.join`). Its pieces are those of the directory
and then its own (`splitOn_join_text`), and its steps go through the
directory (`steps_join_text`).

Where a path is taken apart the two spellings differ. A dot that a path
begins with is kept as a piece, and is a filler once a directory stands
before it; and above a path of one piece is the empty path, while above its
spelling is the directory. Further down what is above the one is what is
above the other, spelled out (`parent?_cases`).
-/

namespace Turnstile

namespace Text

/-- Joining what is joined already. -/
theorem join_append (sep : String) {xs ys : List String} (hx : xs ≠ []) (hy : ys ≠ []) :
    join sep (xs ++ ys) = join sep xs ++ sep ++ join sep ys := by
  induction xs with
  | nil => exact absurd rfl hx
  | cons x rest ih =>
    cases rest with
    | nil =>
      obtain ⟨y, more, rfl⟩ := List.exists_cons_of_ne_nil hy
      rfl
    | cons next rest =>
      rw [List.cons_append, List.cons_append, join_cons_cons, ← List.cons_append,
        ih (List.cons_ne_nil next rest), join_cons_cons]
      simp only [String.append_assoc]

/-- **Splitting is undone by joining.** -/
theorem join_splitOn (s : String) (sep : Char) :
    join (String.singleton sep) (splitOn s sep) = s := by
  have hid : (String.toList ∘ String.ofList) = id := funext fun cs => String.toList_ofList
  apply String.toList_inj.mp
  rw [toList_join, splitOn_eq, List.map_map, hid, List.map_id, String.toList_singleton,
    List.intercalate_splitOn]

theorem splitOn_ne_nil (s : String) (sep : Char) : splitOn s sep ≠ [] := by
  rw [splitOn_eq, ne_eq, List.map_eq_nil_iff]
  exact List.splitOnP_ne_nil _ _

/-- How a text ends does not depend on what stands before it. -/
theorem endsWith_append (lead : String) {s : String} (hne : s ≠ "") (c : Char) :
    endsWith (lead ++ s) (String.singleton c) = endsWith s (String.singleton c) := by
  have hchars : s.toList ≠ [] := by simpa using hne
  obtain ⟨init, last, hlast⟩ := (List.eq_nil_or_concat' s.toList).resolve_left hchars
  -- only the last character matters
  have hends (before : List Char) :
      [c].isSuffixOf (before ++ (init ++ [last])) = decide (c = last) := by
    rw [Bool.eq_iff_iff, List.isSuffixOf_iff_suffix, decide_eq_true_iff, ← List.append_assoc]
    constructor
    · rintro ⟨rest, hrest⟩
      exact (List.cons.inj (List.append_inj_right' hrest rfl)).1
    · rintro rfl
      exact List.suffix_append _ [c]
  rw [endsWith, endsWith, String.toList_append, hlast, String.toList_singleton, hends,
    ← List.nil_append (init ++ [last]), hends]

end Text

namespace Path

variable {d : AbsPath} {path : String}

/-- The pieces of a directory's text, with nothing behind the last slash. -/
def leading (d : AbsPath) : String := Text.join "/" ("" :: d)

/-- **A path spelled out** has the names of the directory before it. -/
theorem join_text (hd : d.Named) (hrel : isAbsolute path = false) :
    join d.text path = leading d ++ "/" ++ path := by
  rw [join, hrel, if_neg Bool.false_ne_true, leading]
  by_cases hne : d = []
  · subst hne
    rfl
  · have hempty : d.text.isEmpty = false := by simp [AbsPath.text]
    rw [hempty, AbsPath.endsWith_text hd hne, Bool.or_false, if_neg Bool.false_ne_true,
      AbsPath.text_eq_join hne]

theorem join_text_of_pieces (hd : d.Named) {pieces : List String} (hne : pieces ≠ [])
    (hrel : isAbsolute (Text.join "/" pieces) = false) :
    join d.text (Text.join "/" pieces) = Text.join "/" ("" :: d ++ pieces) := by
  rw [join_text hd hrel, leading, Text.join_append "/" (List.cons_ne_nil "" d) hne]

/-- **Its pieces** are those of the directory and then its own. -/
theorem splitOn_join_text (hd : d.Named) (hrel : isAbsolute path = false) :
    Text.splitOn (join d.text path) '/' = "" :: d ++ Text.splitOn path '/' := by
  have hpieces : path = Text.join "/" (Text.splitOn path '/') :=
    (Text.join_splitOn path '/').symm
  have hne := Text.splitOn_ne_nil path '/'
  rw [hpieces] at hrel
  have hjoin := join_text_of_pieces hd hne hrel
  rw [← hpieces] at hjoin
  rw [hjoin]
  refine Text.splitOn_join (by simp) fun piece hpiece => ?_
  rw [List.cons_append, List.mem_cons, List.mem_append] at hpiece
  rcases hpiece with rfl | hpiece | hpiece
  · decide
  · exact (hd piece hpiece).2.2
  · exact Text.not_mem_of_mem_splitOn hpiece

theorem isAbsolute_join_text (hd : d.Named) (hrel : isAbsolute path = false) :
    isAbsolute (join d.text path) = true := by
  rw [join_text hd hrel, leading]
  cases d with
  | nil => simp [isAbsolute, Text.startsWith, Text.join]
  | cons first rest => simp [isAbsolute, Text.startsWith, Text.join_cons_cons]

theorem names_join_text (hd : d.Named) (hrel : isAbsolute path = false) :
    names (join d.text path) = d ++ names path := by
  have hempty : (!("" : String).isEmpty) = false := by decide
  rw [names, splitOn_join_text hd hrel, List.filter_append, List.filter_cons_of_neg (by simp),
    List.filter_eq_self.mpr fun name h => by simpa using (hd name h).1, names]

theorem endsWith_join_text (hd : d.Named) (hrel : isAbsolute path = false) (hne : path ≠ "") :
    Text.endsWith (join d.text path) "/" = Text.endsWith path "/" := by
  rw [join_text hd hrel]
  exact Text.endsWith_append _ hne '/'

/-- The steps to what is spelled out go through the directory. -/
theorem steps_join_text (hd : d.Named) (hrel : isAbsolute path = false) (hne : path ≠ "") :
    steps (join d.text path) = d ++ steps path := by
  rw [steps, names_join_text hd hrel, endsWith_join_text hd hrel hne, steps, List.append_assoc]

/-! ## Pieces -/

/-- The pieces of a relative path, last first: no slash is in them, and the
path does not begin with one. -/
structure Relative (pieces : List String) : Prop where
  noSlash : ∀ piece ∈ pieces, '/' ∉ piece.toList
  first : pieces.getLast? ≠ some ""

theorem Relative.tail {piece : String} {rest : List String} (h : Relative (piece :: rest)) :
    Relative rest where
  noSlash p hp := h.noSlash p (List.mem_cons_of_mem _ hp)
  first := by
    cases rest with
    | nil => exact nofun
    | cons next rest => exact h.first

/-- The pieces of a path that is relative and not empty. -/
theorem relative_splitOn (hrel : isAbsolute path = false) (hne : path ≠ "") :
    Relative (Text.splitOn path '/').reverse where
  noSlash piece hpiece := Text.not_mem_of_mem_splitOn (List.mem_reverse.mp hpiece)
  first := by
    rw [List.getLast?_reverse]
    intro hhead
    have hpath := Text.join_splitOn path '/'
    obtain ⟨more, hmore⟩ := List.head?_eq_some_iff.mp hhead
    rw [hmore] at hpath
    cases more with
    | nil => exact hne hpath.symm
    | cons next more =>
      rw [Text.join_cons_cons] at hpath
      rw [← hpath, isAbsolute, Text.startsWith] at hrel
      simp at hrel

/-- The text of such pieces begins with something else than a slash. -/
theorem Relative.exists_toList {pieces : List String} (h : Relative pieces) (hne : pieces ≠ []) :
    ∃ c cs, (Text.join "/" pieces.reverse).toList = c :: cs ∧ c ≠ '/' := by
  obtain ⟨init, first, rfl⟩ := (List.eq_nil_or_concat' pieces).resolve_left hne
  have hfirst : first ≠ "" := by
    rintro rfl
    exact h.first (by simp)
  have hslash := h.noSlash first (by simp)
  obtain ⟨c, cs, hchars⟩ := List.exists_cons_of_ne_nil
    (show first.toList ≠ [] by simpa using hfirst)
  obtain ⟨tail, htail⟩ := Text.exists_join_append "/" [first] init.reverse
  have htext : Text.join "/" (init ++ [first]).reverse = first ++ tail := by
    rw [List.reverse_append, List.reverse_singleton, htail]
    rfl
  refine ⟨c, cs ++ tail.toList, by rw [htext, String.toList_append, hchars, List.cons_append], ?_⟩
  rintro rfl
  exact hslash (by simp [hchars])

theorem Relative.join_ne_empty {pieces : List String} (h : Relative pieces) (hne : pieces ≠ []) :
    Text.join "/" pieces.reverse ≠ "" := by
  obtain ⟨c, cs, hchars, -⟩ := h.exists_toList hne
  intro hempty
  rw [hempty] at hchars
  cases hchars

theorem Relative.isAbsolute_join {pieces : List String} (h : Relative pieces) :
    isAbsolute (Text.join "/" pieces.reverse) = false := by
  by_cases hne : pieces = []
  · subst hne
    decide
  · obtain ⟨c, cs, hchars, hslash⟩ := h.exists_toList hne
    rw [isAbsolute, Text.startsWith, hchars]
    have hfirst : ('/' == c) = false := by simpa using hslash.symm
    change ('/' == c && List.isPrefixOf [] cs) = false
    rw [hfirst, Bool.false_and]

/-- A text whose last piece is a name of some kind does not end in a
slash. -/
theorem endsWith_join_cons {piece : String} (rest : List String) (hne : piece ≠ "")
    (hslash : '/' ∉ piece.toList) :
    Text.endsWith (Text.join "/" (piece :: rest).reverse) "/" = false := by
  obtain ⟨lead, hlead⟩ := Text.exists_join_append_singleton "/" rest.reverse piece
  rw [List.reverse_cons, hlead]
  have hends : Text.endsWith (lead ++ piece) "/" = Text.endsWith piece "/" :=
    Text.endsWith_append lead hne '/'
  rw [hends, Text.endsWith, Bool.eq_false_iff]
  intro h
  exact hslash ((List.isSuffixOf_iff_suffix.mp h).subset (by simp))

/-- The spelling of a start of a path is no longer than that of the path. -/
theorem utf8ByteSize_join_le (hd : d.Named) {first more : List String}
    (hrel : isAbsolute (Text.join "/" first) = false)
    (hrel' : isAbsolute (Text.join "/" (first ++ more)) = false) :
    (join d.text (Text.join "/" first)).utf8ByteSize ≤
      (join d.text (Text.join "/" (first ++ more))).utf8ByteSize := by
  obtain ⟨tail, htail⟩ := Text.exists_join_append "/" first more
  rw [join_text hd hrel, join_text hd hrel', htail]
  simp only [String.utf8ByteSize_append]
  omega

/-- The directory's own text is no longer, either. -/
theorem utf8ByteSize_text_le (hd : d.Named) (hrel : isAbsolute path = false) :
    d.text.utf8ByteSize ≤ (join d.text path).utf8ByteSize := by
  have htext : d.text.utf8ByteSize ≤ (leading d ++ "/").utf8ByteSize := by
    by_cases hne : d = []
    · subst hne
      decide
    · rw [leading, ← AbsPath.text_eq_join hne, String.utf8ByteSize_append]
      omega
  rw [join_text hd hrel, String.utf8ByteSize_append]
  omega

/-! ## What is above a relative path -/

/-- Pieces without the fillers at the end of the path. -/
def stripped (pieces : List String) : List String := pieces.dropWhile (isFiller false)

theorem stripped_cons (piece : String) (rest : List String) :
    stripped (piece :: rest) =
      if isFiller false piece then stripped rest else piece :: rest := by
  rw [stripped, List.dropWhile_cons]
  rfl

theorem Relative.stripped {pieces : List String} (h : Relative pieces) :
    Relative (stripped pieces) := by
  induction pieces with
  | nil => exact h
  | cons piece rest ih =>
    rw [stripped_cons]
    split
    · exact ih h.tail
    · exact h

/-- What is left of a path is a start of it. -/
theorem stripped_suffix (pieces : List String) : Path.stripped pieces <:+ pieces :=
  List.dropWhile_suffix _

/-- **Before more pieces**, fillers are trimmed whatever they are, -/
theorem trimFillers_append (pieces : List String) {base : List String} (hbase : base ≠ []) :
    trimFillers (pieces ++ base) =
      if stripped pieces = [] then trimFillers base else stripped pieces ++ base := by
  induction pieces with
  | nil => rfl
  | cons piece rest ih =>
    obtain ⟨next, more, hnext⟩ := List.exists_cons_of_ne_nil
      (show rest ++ base ≠ [] by simp [hbase])
    rw [List.cons_append, hnext, trimFillers, ← hnext, ih, stripped_cons]
    · cases isFiller false piece <;> simp
    · rintro ⟨⟩

/-- and a relative path keeps a dot at least. -/
theorem Relative.trimFillers_eq {pieces : List String} (h : Relative pieces) (hne : pieces ≠ []) :
    trimFillers pieces = if Path.stripped pieces = [] then ["."] else Path.stripped pieces := by
  induction pieces with
  | nil => exact absurd rfl hne
  | cons piece rest ih =>
    rw [stripped_cons]
    cases rest with
    | nil =>
      have hpiece : piece ≠ "" := fun hempty => h.first (by rw [hempty]; rfl)
      rw [trimFillers]
      by_cases hdot : piece = "."
      · subst hdot
        decide
      · simp [isFiller, hpiece, hdot]
    | cons next more =>
      rw [trimFillers]
      · cases hfiller : isFiller false piece with
        | true => exact ih h.tail (List.cons_ne_nil next more)
        | false => simp
      · rintro ⟨⟩

/-- Pieces with no filler at the end of the path. -/
def Trimmed (pieces : List String) : Prop :=
  ∃ piece rest, pieces = piece :: rest ∧ isFiller false piece = false

theorem Trimmed.stripped_eq {pieces : List String} (h : Trimmed pieces) :
    Path.stripped pieces = pieces := by
  obtain ⟨piece, rest, rfl, hkept⟩ := h
  rw [stripped_cons, hkept, if_neg Bool.false_ne_true]

theorem Trimmed.ne_nil {pieces : List String} (h : Trimmed pieces) : pieces ≠ [] := by
  obtain ⟨piece, rest, rfl, -⟩ := h
  exact List.cons_ne_nil piece rest

theorem trimmed_stripped {pieces : List String} (h : Path.stripped pieces ≠ []) :
    Trimmed (Path.stripped pieces) := by
  induction pieces with
  | nil => exact absurd rfl h
  | cons piece rest ih =>
    rw [stripped_cons] at h ⊢
    cases hfiller : isFiller false piece with
    | true =>
      rw [hfiller] at h
      exact ih h
    | false => exact ⟨piece, rest, rfl, hfiller⟩

/-- The pieces of a relative path given by them. -/
theorem Relative.splitOn_join {pieces : List String} (h : Relative pieces) (hne : pieces ≠ []) :
    Text.splitOn (Text.join "/" pieces.reverse) '/' = pieces.reverse :=
  Text.splitOn_join (by simpa using hne) fun piece hpiece =>
    h.noSlash piece (List.mem_reverse.mp hpiece)

/-- Taking a relative path apart. -/
theorem backwards_of_relative (hrel : isAbsolute path = false) :
    backwards path = (trimFillers (Text.splitOn path '/').reverse, false) := by
  rw [backwards, hrel, if_neg Bool.false_ne_true]

/-- Taking its spelling apart. -/
theorem backwards_join_text (hd : d.Named) (hrel : isAbsolute path = false) :
    backwards (join d.text path) =
      (trimFillers ((Text.splitOn path '/').reverse ++ (d.reverse ++ [""])), true) := by
  rw [backwards, isAbsolute_join_text hd hrel, if_pos rfl, splitOn_join_text hd hrel,
    List.cons_append, List.tail_cons, List.reverse_cons, List.reverse_append, List.append_assoc]

section

variable {pieces : List String} (hrelative : Relative pieces) (htrimmed : Trimmed pieces)
include hrelative htrimmed

/-- Above a path of such pieces are the paths of fewer of them, -/
theorem ancestors_of_trimmed :
    ancestors (Text.join "/" pieces.reverse) = ancestorsOf pieces := by
  have hne := htrimmed.ne_nil
  rw [ancestors, backwards_of_relative hrelative.isAbsolute_join, hrelative.splitOn_join hne,
    List.reverse_reverse, hrelative.trimFillers_eq hne, htrimmed.stripped_eq, if_neg hne]

/-- and above its spelling is what is above the directory, too. -/
theorem ancestors_join_of_trimmed (hd : d.Named) :
    ancestors (join d.text (Text.join "/" pieces.reverse)) =
      ancestorsOf (pieces ++ (d.reverse ++ [""])) := by
  have hne := htrimmed.ne_nil
  rw [ancestors, backwards_join_text hd hrelative.isAbsolute_join, hrelative.splitOn_join hne,
    List.reverse_reverse, trimFillers_append pieces (by simp), htrimmed.stripped_eq, if_neg hne]

end

/-- Where nothing is left of a path, its spelling is the directory. -/
theorem parent?_join_of_stripped (hd : d.Named) (hrel : isAbsolute path = false)
    (hleft : stripped (Text.splitOn path '/').reverse = []) {above : String}
    (h : parent? (join d.text path) = some above) : ∃ p : AbsPath, p <+: d ∧ above = p.text := by
  have hback := backwards_join_text hd hrel
  rw [trimFillers_append _ (by simp), hleft, if_pos rfl] at hback
  rcases List.eq_nil_or_concat' d with rfl | ⟨init, name, rfl⟩
  · rw [parent?, hback] at h
    cases h
  · have hsame : parent? (join (AbsPath.text (init ++ [name])) path) =
        parent? (AbsPath.text (init ++ [name])) := by
      rw [parent?, hback, parent?, AbsPath.backwards_text hd (by simp),
        AbsPath.trimFillers_reverse hd, if_neg (by simp)]
    rw [hsame, AbsPath.parent?_text hd] at h
    exact ⟨init, List.prefix_append init [name], (Option.some.inj h).symm⟩

section

variable {last : String} {more : List String}

/-- **Above a relative path** is what its pieces but the last come to, -/
theorem parent?_of_stripped_cons (hrel : isAbsolute path = false) (hne : path ≠ "")
    (hleft : stripped (Text.splitOn path '/').reverse = last :: more) :
    parent? path = some (Text.join "/" (trimFillers more).reverse) := by
  rw [parent?, backwards_of_relative hrel,
    (relative_splitOn hrel hne).trimFillers_eq (by simpa using Text.splitOn_ne_nil path '/'), hleft,
    if_neg (List.cons_ne_nil last more)]
  rfl

/-- and above its spelling what these come to, spelled out. -/
theorem parent?_join_of_stripped_cons (hd : d.Named) (hrel : isAbsolute path = false)
    (hleft : stripped (Text.splitOn path '/').reverse = last :: more) (hmore : Relative more) :
    parent? (join d.text path) = some (if stripped more = [] then d.text
      else join d.text (Text.join "/" (stripped more).reverse)) := by
  have hbase : d.reverse ++ [""] ≠ [] := by simp
  rw [parent?, backwards_join_text hd hrel, trimFillers_append _ hbase, hleft,
    if_neg (List.cons_ne_nil last more), List.cons_append]
  dsimp only
  rw [trimFillers_append more hbase]
  by_cases habove : stripped more = []
  · rw [if_pos habove, if_pos habove, AbsPath.join_trimFillers_reverse hd]
  · have hrel' := hmore.stripped.isAbsolute_join
    have hspelled : Text.join "/" (stripped more ++ (d.reverse ++ [""])).reverse =
        join d.text (Text.join "/" (stripped more).reverse) := by
      rw [join_text_of_pieces hd (by simpa using habove) hrel']
      simp
    have hthere : (join d.text (Text.join "/" (stripped more).reverse)).isEmpty = false := by
      rw [join_text hd hrel']
      simp
    rw [if_neg habove, if_neg habove, hspelled, hthere, Bool.and_false, if_neg Bool.false_ne_true]

end

/-- **What is above a relative path and above its spelling**: nothing to
name and the directory or what is above that; a dot and the directory; or a
path and its spelling. -/
theorem parent?_cases (hd : d.Named) (hrel : isAbsolute path = false) (hne : path ≠ "") :
    (parent? path = some "" ∧
      ∀ above, parent? (join d.text path) = some above →
        ∃ p : AbsPath, p <+: d ∧ above = p.text) ∨
    (parent? path = some "." ∧ parent? (join d.text path) = some d.text) ∨
    ∃ pieces, Relative pieces ∧ Trimmed pieces ∧ pieces.reverse <+: Text.splitOn path '/' ∧
      parent? path = some (Text.join "/" pieces.reverse) ∧
      parent? (join d.text path) = some (join d.text (Text.join "/" pieces.reverse)) := by
  have hrelative := relative_splitOn hrel hne
  rcases hleft : stripped (Text.splitOn path '/').reverse with - | ⟨last, more⟩
  · -- nothing but dots: the directory itself
    refine Or.inl ⟨?_, fun above habove => parent?_join_of_stripped hd hrel hleft habove⟩
    rw [parent?, backwards_of_relative hrel,
      hrelative.trimFillers_eq (by simpa using Text.splitOn_ne_nil path '/'), hleft]
    rfl
  · have hmorerel : Relative more := (hleft ▸ hrelative.stripped).tail
    have hparent := parent?_of_stripped_cons hrel hne hleft
    have hparent' := parent?_join_of_stripped_cons hd hrel hleft hmorerel
    by_cases habove : stripped more = []
    · -- nothing is left above: the directory, seen from a piece or from a dot in it
      rw [if_pos habove] at hparent'
      by_cases hmore : more = []
      · subst hmore
        refine Or.inl ⟨hparent, fun above hsome => ?_⟩
        rw [hparent'] at hsome
        exact ⟨d, List.prefix_rfl, (Option.some.inj hsome).symm⟩
      · rw [hmorerel.trimFillers_eq hmore, if_pos habove] at hparent
        exact Or.inr (Or.inl ⟨hparent, hparent'⟩)
    · have hmore : more ≠ [] := by
        rintro rfl
        exact habove rfl
      rw [hmorerel.trimFillers_eq hmore, if_neg habove] at hparent
      rw [if_neg habove] at hparent'
      -- fillers were dropped at the end of the path alone
      have hsuffix : stripped more <:+ (Text.splitOn path '/').reverse :=
        (stripped_suffix more).trans ((List.suffix_cons last more).trans
          (hleft ▸ stripped_suffix (Text.splitOn path '/').reverse))
      refine Or.inr (Or.inr ⟨stripped more, hmorerel.stripped, trimmed_stripped habove, ?_, hparent,
        hparent'⟩)
      rw [← List.reverse_reverse (Text.splitOn path '/')]
      exact List.reverse_prefix.mpr hsuffix

end Path

end Turnstile
