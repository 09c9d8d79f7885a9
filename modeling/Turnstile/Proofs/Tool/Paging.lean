import Turnstile.Proofs.Files.Pieces
import Turnstile.Proofs.Json.Record
import Turnstile.Proofs.Text.Lines
import Turnstile.Tool.Files
import Mathlib.Data.List.Basic
/-!
# Reading a file by pages

Once the guard has answered, what reading a file answers is a matter of its
content alone (`execute_on`): the content, or the lines of a page of it
(`Page`), capped. The pages of one length, one after another from the first
line on, are the lines (`flatten_pages`), so if none of them is capped they
can be put together again (`paged`).
-/

namespace Turnstile

namespace ReadFileTool

/-! ## A page of lines -/

/-- The lines of a page: those from `offset` on, `limit` of them at the
most. -/
def Page (lines : List String) (offset : Nat) (limit : Option Nat) (page : List String) : Prop :=
  ∀ i, page[i]? = if ∀ k ∈ limit, i < k then lines[offset + i]? else none

theorem page_drop (lines : List String) (offset : Nat) :
    Page lines offset none (lines.drop offset) := by
  intro i
  rw [List.getElem?_drop, if_pos fun k hk => nomatch hk]

theorem page_take (lines : List String) (offset k : Nat) :
    Page lines offset (some k) ((lines.drop offset).take k) := by
  intro i
  rw [List.getElem?_take, List.getElem?_drop]
  simp

/-- There is one such page. -/
theorem Page.unique {lines page page' : List String} {offset : Nat} {limit : Option Nat}
    (h : Page lines offset limit page) (h' : Page lines offset limit page') : page = page' :=
  List.ext_getElem? fun i => (h i).trans (h' i).symm

/-! ## Pages of one length -/

/-- Where the pages of a length begin: at its multiples. -/
def offsets (count length : Nat) : List Nat := (List.range count).filter fun i => length ∣ i

/-- Below one length nothing but nought is a multiple. -/
theorem offsets_of_le {count length : Nat} (hcount : 0 < count) (hle : count ≤ length) :
    offsets count length = [0] := by
  obtain ⟨n, rfl⟩ := Nat.exists_eq_succ_of_ne_zero (Nat.ne_of_gt hcount)
  have hnone : ((List.range n).map Nat.succ).filter (fun i => length ∣ i) = [] := by
    refine List.filter_eq_nil_iff.mpr fun i hi hdvd => ?_
    obtain ⟨j, hj, rfl⟩ := List.mem_map.mp hi
    have hlength : length ≤ j.succ := Nat.le_of_dvd (Nat.succ_pos j) (of_decide_eq_true hdvd)
    have hlt : j < n := List.mem_range.mp hj
    omega
  rw [offsets, List.range_succ_eq_map, List.filter_cons_of_pos (by simp), hnone]

/-- The first page begins at nought, and the others where those of the rest
do. -/
theorem offsets_pos {count length : Nat} (hcount : 0 < count) (hlength : 0 < length) :
    offsets count length = 0 :: (offsets (count - length) length).map (· + length) := by
  rcases Nat.le_total count length with hle | hle
  · rw [offsets_of_le hcount hle, Nat.sub_eq_zero_of_le hle]
    rfl
  · obtain ⟨more, rfl⟩ := Nat.exists_eq_add_of_le hle
    have hfirst : (List.range length).filter (fun i => length ∣ i) = [0] :=
      offsets_of_le hlength (Nat.le_refl length)
    have hshift : (fun i => decide (length ∣ i)) ∘ (length + ·) = fun i => decide (length ∣ i) := by
      funext i
      exact decide_eq_decide.mpr (Nat.dvd_add_right (Nat.dvd_refl length))
    have hcomm : (length + ·) = (· + length) := funext fun i => Nat.add_comm length i
    rw [offsets, List.range_add, List.filter_append, hfirst, List.filter_map, hshift,
      Nat.add_sub_cancel_left, hcomm]
    rfl

/-- **The pages one after another are the lines.** -/
theorem flatten_pages {length : Nat} (h : 0 < length) (lines : List String) :
    ((offsets lines.length length).map fun o => (lines.drop o).take length).flatten = lines := by
  -- on the number of lines; without the first page there are fewer
  induction hcount : lines.length using Nat.strongRecOn generalizing lines with
  | ind count ih =>
    rcases Nat.eq_zero_or_pos count with rfl | hpos
    · rw [List.length_eq_zero_iff.mp hcount]
      rfl
    · have hrest := ih (count - length) (by omega) (lines.drop length)
        (by rw [List.length_drop, hcount])
      have hpages (o : Nat) : (lines.drop (o + length)).take length =
          ((lines.drop length).drop o).take length := by
        rw [List.drop_drop, Nat.add_comm]
      rw [offsets_pos hpos h, List.map_cons, List.flatten_cons, List.drop_zero, List.map_map]
      show lines.take length ++
        ((offsets (count - length) length).map fun o =>
          (lines.drop (o + length)).take length).flatten = lines
      simp only [hpages, hrest]
      exact List.take_append_drop length lines

/-- Pages that are joined may be joined. -/
theorem join_map_join (sep : String) {pages : List (List String)} (h : ∀ page ∈ pages, page ≠ []) :
    Text.join sep (pages.map (Text.join sep)) = Text.join sep pages.flatten := by
  induction pages with
  | nil => rfl
  | cons page pages ih =>
    obtain ⟨hpage, hpages⟩ := List.forall_mem_cons.mp h
    rw [List.map_cons, List.flatten_cons]
    rcases pages with _ | ⟨next, more⟩
    · rw [List.flatten_nil, List.append_nil]
      rfl
    · have hnext : (next :: more).flatten ≠ [] := by
        rw [List.flatten_cons]
        exact List.append_ne_nil_of_left_ne_nil (hpages next List.mem_cons_self) _
      rw [List.map_cons, Text.join_cons_cons, ← List.map_cons, ih hpages,
        Text.join_append sep hpage hnext]

/-! ## A matter of the content -/

/-- **Reading, on a world**: the input is read, the guard asked, and the
content is that of the tree; nothing changes. -/
theorem execute_on (input : Json) (policy : Policy) (w : World) :
    (execute input policy).on w =
      match Args.reader Source.value (Doc.ofJson input) with
      | .error mismatch => (.error (.invalidInput mismatch.message), w)
      | .ok args =>
        match Guard.checkRead w.files w.cwd policy args.path with
        | .error refusal => (.error (.ofRefusal refusal), w)
        | .ok checked =>
          ((content w.files w.cwd checked.text).map fun bytes =>
            Text.capWithMarker (page args.offset args.limit (Utf8.decodeLossy bytes))
              policy.effectiveMaxOutputBytes, w) := by
  rw [execute, Act.on_bind, Tool.input]
  cases Args.reader Source.value (Doc.ofJson input) with
  | error mismatch => rfl
  | ok args =>
    dsimp only
    rw [Act.on_pure]
    dsimp only
    rw [Act.on_bind, FileTool.guarded, Act.on_bind, Act.on_look]
    dsimp only
    rw [Act.on_bind, Act.on_orElse, Act.on_ofExcept]
    cases Guard.checkRead w.files w.cwd policy args.path with
    | error refusal => rfl
    | ok checked =>
      dsimp only [Except.mapError]
      rw [Act.on_pure]
      dsimp only
      rw [Act.on_bind, Act.on_look]
      dsimp only
      rw [Act.on_bind, Act.on_ofExcept]
      cases content w.files w.cwd checked.text <;> rfl

end ReadFileTool

/-- What a regular file holds. Of a program of the system the bytes are not
known. -/
def Entry.bytes? : Entry → Option Bytes
  | .file bytes _ => some bytes
  | .program _ | .directory | .link _ | .device => none

namespace ReadFileTool

theorem content_eq_ok {files : FileTree} {cwd place : AbsPath} {path : String} {entry : Entry}
    {bytes : Bytes} (hstat : files.stat cwd path = .ok (place, entry))
    (hbytes : entry.bytes? = some bytes) (hsize : bytes.length ≤ sizeLimit) :
    content files cwd path = .ok bytes := by
  rw [content, hstat]
  cases entry with
  | file held executable =>
    cases hbytes
    exact if_neg (Nat.not_lt.mpr hsize)
  | program name | directory | link target | device => cases hbytes

/-- The input asks for this. -/
def Asks (input : Json) (args : Args) : Prop :=
  Args.reader Source.value (Doc.ofJson input) = .ok args

/-- An input that asks for a page of a file. -/
def request (path : String) (offset : Nat) (limit : Option Nat) : Json :=
  .ofFields [("path", .str path), ("offset", .nat offset), ("limit", (limit.map .nat).getD .null)]

/-- Every page can be asked for that an index can name. -/
theorem asks_request (path : String) {offset : Nat} {limit : Option Nat}
    (hoffset : offset < Nat.pow 2 64) (hlimit : ∀ k ∈ limit, k < Nat.pow 2 64) :
    Asks (request path offset limit) ⟨path, offset, limit⟩ := by
  have hindex : Reader.Undoes Reader.index Json.nat offset :=
    Reader.undoes_natBelow "usize" hoffset
  have hoption : Reader.Undoes (Reader.option Reader.index)
      (fun o => (o.map Json.nat).getD .null) limit :=
    Reader.Undoes.option (fun _ => rfl) fun k hk => Reader.undoes_natBelow "usize" (hlimit k hk)
  have hroom (within : Source) : Doc.Fits within.limit ((limit.map Json.nat).getD .null).depth := by
    cases limit <;> exact Doc.fits_zero _
  have hrecord : ∃ fs, Reader.eagerRecord "struct ReadArgs"
      [("path", Reader.judged Reader.path), ("offset", Reader.judged Reader.index),
        ("limit", Reader.judged (Reader.option Reader.index))] Source.value
        (.ofJson (request path offset limit)) = .ok fs ∧
      Reader.Found fs ["path", "offset", "limit"] (request path offset limit) := by
    refine Reader.exists_found_of_check "struct ReadArgs" _ (Doc.fits_none _) ?_
    intro within p hp _
    simp only [List.mem_cons, List.not_mem_nil, or_false] at hp
    rcases hp with rfl | rfl | rfl
    · rfl
    · exact congrArg (Except.map fun _ => ()) (hindex within (Doc.fits_zero _))
    · exact congrArg (Except.map fun _ => ()) (hoption within (hroom within))
  obtain ⟨fs, hfs, hfound⟩ := hrecord
  have hpath : fs.require "path" Reader.path = .ok path :=
    hfound.require (by simp) (fun _ _ => rfl : Reader.Undoes Reader.path Json.str path)
      (by simp [request])
  have hoffset : fs.getD "offset" Reader.index 0 = .ok offset :=
    hfound.getD (by simp) hindex 0 (by simp [request])
  have hlimit : fs.getD "limit" (Reader.option Reader.index) none = .ok limit :=
    hfound.getD (by simp) hoption none (by simp [request])
  rw [Asks, Args.reader, hfs, Reader.ok_bind, hpath, hoffset, hlimit]
  rfl

/-- What reading a path of a text answers, by the lines the text falls
into. -/
structure Paged (w : World) (policy : Policy) (path text : String) (lines : List String) :
    Prop where
  /-- The text falls into these lines, and into no others. -/
  lined : ∀ ls : List String, Text.Lined text.toList (ls.map String.toList) ↔ ls = lines
  /-- Where no page is asked for, the text is answered. -/
  whole : ∀ input, Asks input ⟨path, 0, none⟩ →
    (execute input policy).on w =
      (.ok (Text.capWithMarker text policy.effectiveMaxOutputBytes), w)
  /-- Where one is, its lines are, with a line feed between them. -/
  page : ∀ input offset limit, Asks input ⟨path, offset, limit⟩ → 0 < offset ∨ limit.isSome →
    ∃ page, Page lines offset limit page ∧ (execute input policy).on w =
      (.ok (Text.capWithMarker (Text.join "\n" page) policy.effectiveMaxOutputBytes), w)
  /-- If none of the pages of a length is too long to be answered whole, the
  answers put together give every line once and in order. -/
  tiled : ∀ length, 0 < length → ∀ ask : Nat → Json,
    (∀ o ∈ offsets lines.length length, Asks (ask o) ⟨path, o, some length⟩) →
    (∀ o ∈ offsets lines.length length, ∀ page, Page lines o (some length) page →
      (Text.join "\n" page).utf8ByteSize ≤ policy.effectiveMaxOutputBytes) →
    ∃ texts : List String,
      ((offsets lines.length length).map fun o => ((execute (ask o) policy).on w).1) =
        texts.map .ok ∧
      Text.join "\n" texts = Text.join "\n" lines ∧
      (lines ≠ [] → Text.splitOn (Text.join "\n" texts) '\n' = lines)

/-- A page is not empty if it begins at a line. -/
theorem page_ne_nil {lines : List String} {length o : Nat} (h : 0 < length)
    (ho : o ∈ offsets lines.length length) : (lines.drop o).take length ≠ [] := by
  have hlt : o < lines.length := List.mem_range.mp (List.mem_filter.mp ho).1
  intro hnil
  have hlength := congrArg List.length hnil
  rw [List.length_take, List.length_drop, List.length_nil] at hlength
  omega

/-- Where the path may be read and the content is had, the answer is the
text asked for, capped. -/
theorem execute_asks {input : Json} {policy : Policy} {w : World} {args : Args}
    {checked : CheckedPath} {bytes : Bytes} (hasks : Asks input args)
    (hcheck : Guard.checkRead w.files w.cwd policy args.path = .ok checked)
    (hcontent : content w.files w.cwd checked.text = .ok bytes) :
    (execute input policy).on w =
      (.ok (Text.capWithMarker (page args.offset args.limit (Utf8.decodeLossy bytes))
        policy.effectiveMaxOutputBytes), w) := by
  rw [execute_on, hasks]
  simp only [hcheck, hcontent]
  rfl

/-- The text of a page is its lines, joined. -/
theorem exists_page (text : String) {offset : Nat} {limit : Option Nat}
    (h : 0 < offset ∨ limit.isSome) :
    ∃ ls, Page (Text.lines text) offset limit ls ∧ page offset limit text = Text.join "\n" ls := by
  rw [page, if_pos h]
  cases limit with
  | none => exact ⟨_, page_drop _ _, rfl⟩
  | some k => exact ⟨_, page_take _ _ k, rfl⟩

/-- **Reading by pages.** A regular file that may be read, and is not too
large, is answered by its content, or by the lines asked for; and its pages
make up all of its lines. -/
theorem paged (w : World) (policy : Policy) (path : String) {checked : CheckedPath}
    {place : AbsPath} {entry : Entry} {bytes : Bytes}
    (hcheck : Guard.checkRead w.files w.cwd policy path = .ok checked)
    (hstat : w.files.stat w.cwd checked.text = .ok (place, entry))
    (hbytes : entry.bytes? = some bytes) (hsize : bytes.length ≤ sizeLimit) :
    ∃ lines, Paged w policy path (Utf8.decodeLossy bytes) lines := by
  have hanswer (input : Json) (offset : Nat) (limit : Option Nat)
      (hasks : Asks input ⟨path, offset, limit⟩) :
      (execute input policy).on w = (.ok (Text.capWithMarker
        (page offset limit (Utf8.decodeLossy bytes)) policy.effectiveMaxOutputBytes), w) :=
    execute_asks hasks hcheck (content_eq_ok hstat hbytes hsize)
  generalize Utf8.decodeLossy bytes = text at hanswer ⊢
  refine ⟨Text.lines text, fun ls => Text.lined_iff, fun input hasks => ?_,
    fun input offset limit hasks hsome => ?_, fun length hpos ask hasks hshort => ?_⟩
  · rw [hanswer input 0 none hasks]
    rfl
  · obtain ⟨ls, hls, htext⟩ := exists_page text hsome
    exact ⟨ls, hls, by rw [hanswer input offset limit hasks, htext]⟩
  · -- no page is empty, so joining the pages loses no line end
    have hjoin := join_map_join "\n" (List.forall_mem_map.mpr fun o ho =>
      (page_ne_nil hpos ho : ((Text.lines text).drop o).take length ≠ []))
    rw [flatten_pages hpos, List.map_map] at hjoin
    refine ⟨_, ?_, hjoin, fun hne => ?_⟩
    · rw [List.map_map]
      refine List.map_congr_left fun o ho => ?_
      have hsome : 0 < o ∨ (some length).isSome := Or.inr rfl
      obtain ⟨ls, hls, htext⟩ := exists_page text hsome
      rw [hanswer (ask o) o (some length) (hasks o ho), htext, hls.unique (page_take _ _ length),
        Text.capWithMarker, if_pos (hshort o ho _ (page_take _ _ length))]
      rfl
    · rw [hjoin]
      exact Text.splitOn_join hne fun line hline => Text.not_mem_of_mem_lines hline

/-- A file of four lines with either line end, one of them empty, and a
last one without an end. -/
def pagedTree : FileTree :=
  ⟨[(["d"], .directory), (["d", "t"], .file (Utf8.encode "a\r\n\nb\rc\nd") false)]⟩

/-- A policy that lets it be read. -/
def pagedPolicy : Policy := { Policy.default with allowedPaths := ["/d"] }

/-- Its lines, read one and three at a time. -/
theorem paged_sample :
    let w := World.fresh pagedTree []
    let run (offset : Nat) (limit : Option Nat) :=
      ((execute (request "/d/t" offset limit) pagedPolicy).on w).1
    run 0 none = .ok "a\r\n\nb\rc\nd" ∧
      ∃ texts, [run 0 (some 3), run 3 (some 3)] = texts.map .ok ∧
        Text.splitOn (Text.join "\n" texts) '\n' = ["a", "", "b\rc", "d"] := by
  intro w run
  have hcheck : Guard.checkRead w.files w.cwd pagedPolicy "/d/t" = .ok (.resolved ["d", "t"]) := by
    decide +kernel
  have hstat : w.files.stat w.cwd (CheckedPath.resolved ["d", "t"]).text =
      .ok (["d", "t"], .file (Utf8.encode "a\r\n\nb\rc\nd") false) := by
    decide +kernel
  obtain ⟨lines, hpaged⟩ := paged w pagedPolicy "/d/t" hcheck hstat rfl (by decide +kernel)
  have hlines : ["a", "", "b\rc", "d"] = lines :=
    (hpaged.lined _).mp (Text.lined_iff.mpr (by decide +kernel))
  subst hlines
  have hwhole := hpaged.whole _ (asks_request "/d/t" (by decide) fun k hk => nomatch hk)
  have hbelow {o : Nat} (ho : o ∈ offsets 4 3) : o < 4 :=
    List.mem_range.mp (List.mem_filter.mp ho).1
  have hasks : ∀ o ∈ offsets 4 3, Asks (request "/d/t" o (some 3)) ⟨"/d/t", o, some 3⟩ := by
    intro o ho
    have hlt := hbelow ho
    exact asks_request "/d/t" (Nat.lt_trans hlt (by decide)) (by decide)
  have hshort : ∀ o ∈ offsets 4 3, ∀ ls, Page ["a", "", "b\rc", "d"] o (some 3) ls →
      (Text.join "\n" ls).utf8ByteSize ≤ pagedPolicy.effectiveMaxOutputBytes := by
    intro o ho ls hls
    have hlt := hbelow ho
    rw [hls.unique (page_take _ _ 3)]
    match o with
    | 0 | 1 | 2 | 3 => decide +kernel
  obtain ⟨texts, hanswers, -, hsplit⟩ := hpaged.tiled 3 (by decide) _ hasks hshort
  exact ⟨(congrArg Prod.fst hwhole).trans (by decide +kernel), texts, hanswers, hsplit (by simp)⟩

end ReadFileTool

end Turnstile
