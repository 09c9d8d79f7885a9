import Turnstile.Json.Reader
import Turnstile.Proofs.Json.Shape
import Mathlib.Data.List.Forall2
/-!
# Records that were written are read

A reader undoes a writer where what was written has room at the source
(`Reader.Undoes`). It does for a list if it does for the items
(`Reader.Undoes.list`). Of a record that was written, every known field is
found under its name, whatever else the object holds
(`Reader.exists_found`), so each field may be read on its own.

The other way about, whatever a record or a list was read from, there was
room for one level more (`Reader.inside_of_record`,
`Reader.exists_of_list`).
-/

namespace Turnstile

theorem Source.inside_of_fits {source : Source} {depth : Nat}
    (h : Doc.Fits source.limit (depth + 1)) :
    ∃ within, source.inside = .ok within ∧ Doc.Fits within.limit depth := by
  obtain ⟨limit, hinside, hfits⟩ := Doc.fits_succ_iff.mp h
  exact ⟨{ source with limit }, by rw [Source.inside, hinside], hfits⟩

theorem Source.fits_of_inside {source within : Source} {depth : Nat}
    (hinside : source.inside = .ok within) (h : Doc.Fits within.limit depth) :
    Doc.Fits source.limit (depth + 1) := by
  rw [Source.inside] at hinside
  split at hinside
  · rename_i limit hlimit
    cases hinside
    exact Doc.fits_succ_iff.mpr ⟨limit, hlimit, h⟩
  · cases hinside

theorem Source.fits_inside {source within : Source} {depth : Nat}
    (hinside : source.inside = .ok within) (h : Doc.Fits source.limit (depth + 1)) :
    Doc.Fits within.limit depth := by
  obtain ⟨other, hother, hfits⟩ := Source.inside_of_fits h
  rw [hinside] at hother
  cases hother
  exact hfits

/-- There is room for an object if there is for its fields one level in. -/
theorem Source.fits_ofFields {source within : Source} {fields : List (String × Json)}
    (hinside : source.inside = .ok within) (h : ∀ p ∈ fields, Doc.Fits within.limit p.2.depth) :
    Doc.Fits source.limit (Json.ofFields fields).depth := by
  refine Source.fits_of_inside hinside fun n hn => ?_
  exact Json.depthFields_le_iff.mpr fun p hp => h p (Keyed.mem_of_mem_ofList hp) n hn

/-- There is room for a list if there is for its items one level in. -/
theorem Source.fits_arr {source within : Source} {xs : List Json}
    (hinside : source.inside = .ok within) (h : ∀ x ∈ xs, Doc.Fits within.limit x.depth) :
    Doc.Fits source.limit (Json.arr xs).depth := by
  refine Source.fits_of_inside hinside fun n hn => ?_
  exact Json.depthItems_le_iff.mpr fun x hx => h x hx n hn

/-- The field of an object, the first where several have the name. -/
def Doc.field? (key : String) : Doc → Option Doc
  | .obj fields => (fields.find? (·.1 == some key)).map (·.2)
  | _ => none

namespace Reader

variable {α : Type} {r : Reader α} {write : α → Json} {x : α}

/-- What was read is what is gone on with. -/
theorem ok_bind {β γ : Type} (b : β) (f : β → Except Mismatch γ) :
    ((.ok b : Except Mismatch β) >>= f) = f b := rfl

/-- What was written is read, wherever there is room for it. -/
def Undoes (r : Reader α) (write : α → Json) (x : α) : Prop :=
  ∀ source : Source, Doc.Fits source.limit (write x).depth → r source (.ofJson (write x)) = .ok x

theorem undoes_string (s : String) : Undoes string Json.str s := fun _ _ => rfl

theorem undoes_bool (b : Bool) : Undoes bool Json.bool b := fun _ _ => rfl

theorem undoes_natBelow {bound n : Nat} (name : String) (h : n < bound) :
    Undoes (natBelow bound name) Json.nat n := by
  intro source _
  have hlt : (0 : Int) ≤ n ∧ (n : Int) < bound := ⟨Int.natCast_nonneg n, Int.ofNat_lt.mpr h⟩
  exact if_pos hlt

theorem undoes_json {j : Json} (h : j.ordered = true) : Undoes json id j := by
  intro source hfits
  rw [json, id, Doc.toJson?_ofJson j h hfits]

theorem option_ofJson {source : Source} {j : Json} (hnull : j.isNull = false)
    (h : r source (.ofJson j) = .ok x) : option r source (.ofJson j) = .ok (some x) := by
  cases j with
  | null => cases hnull
  | _ => exact congrArg (Except.map some) h

/-- What may be missing is read, there or not. -/
theorem Undoes.option {o : Option α} (hnull : ∀ x, (write x).isNull = false)
    (h : ∀ x ∈ o, Undoes r write x) :
    Undoes (option r) (fun o => (o.map write).getD .null) o := by
  intro source hfits
  cases o with
  | none => rfl
  | some x => exact option_ofJson (hnull x) (h x rfl source hfits)

theorem mapM_ofItems {source : Source} {xs : List α}
    (h : ∀ x ∈ xs, r source (.ofJson (write x)) = .ok x) :
    (Doc.ofItems (xs.map write)).mapM (r source) = .ok xs := by
  induction xs with
  | nil => rfl
  | cons x xs ih =>
    obtain ⟨hx, hxs⟩ := List.forall_mem_cons.mp h
    rw [List.map_cons, Doc.ofItems, List.mapM_cons, hx, ih hxs]
    rfl

/-- **A list that was written is read** if its items are. -/
theorem Undoes.list {xs : List α} (h : ∀ x ∈ xs, Undoes r write x) :
    Undoes (list r) (fun xs => .arr (xs.map write)) xs := by
  intro source hfits
  obtain ⟨within, hinside, hfits⟩ := Source.inside_of_fits hfits
  have hroom (y : α) (hy : y ∈ xs) : Doc.Fits within.limit (write y).depth :=
    hfits.mono (Json.depthItems_le_iff.mp (Nat.le_refl _) _ (List.mem_map_of_mem hy))
  have hitems := mapM_ofItems fun y hy => h y hy within (hroom y hy)
  show (do
    let source ← source.inside
    (Doc.ofItems (xs.map write)).mapM (r source)) = _
  rw [hinside]
  exact hitems

/-! ## Fields of a record -/

variable {name key : String} {known : List String}

/-- The known fields of an object, as documents. -/
def knownFields (known : List String) (fields : List (String × Json)) : List (String × Doc) :=
  (fields.filter fun p => known.contains p.1).map fun p => (p.1, .ofJson p.2)

theorem knownFields_cons (known : List String) (k : String) (v : Json)
    (fields : List (String × Json)) :
    knownFields known ((k, v) :: fields) =
      if known.contains k then (k, .ofJson v) :: knownFields known fields
      else knownFields known fields := by
  rw [knownFields, List.filter_cons]
  split <;> rfl

/-- The known fields of an object are taken, each once, if they pass the
check. -/
theorem collect_ofFields (known : List String) {check : String → Doc → Except Mismatch Unit}
    {fields : List (String × Json)} (hsorted : Keyed.Sorted fields)
    (hcheck : ∀ p ∈ fields, known.contains p.1 = true → check p.1 (.ofJson p.2) = .ok ())
    {found : List (String × Doc)} (hfresh : ∀ p ∈ fields, ∀ q ∈ found, q.1 ≠ p.1) :
    collect known check found (Doc.ofFields fields) =
      .ok (found ++ knownFields known fields) := by
  induction fields generalizing found with
  | nil => exact congrArg Except.ok (List.append_nil found).symm
  | cons p fields ih =>
    obtain ⟨k, v⟩ := p
    obtain ⟨hlater, hsorted⟩ := List.pairwise_cons.mp hsorted
    obtain ⟨hk, hfresh⟩ := List.forall_mem_cons.mp hfresh
    obtain ⟨hpasses, hcheck⟩ := List.forall_mem_cons.mp hcheck
    rw [Doc.ofFields, collect, knownFields_cons]
    split
    · rename_i hknown
      -- the fields are in order of key, so none of this name comes again
      have hnew : ¬ found.any (·.1 == k) = true := by
        intro hany
        obtain ⟨q, hq, heq⟩ := List.any_eq_true.mp hany
        exact hk q hq (eq_of_beq heq)
      have hnext : ∀ p ∈ fields, ∀ q ∈ found ++ [(k, Doc.ofJson v)], q.1 ≠ p.1 := by
        intro p hp q hq
        rcases List.mem_append.mp hq with hq | hq
        · exact hfresh p hp q hq
        · rw [List.mem_singleton.mp hq]
          exact ne_of_lt (hlater p hp)
      rw [if_neg hnew, hpasses hknown]
      refine (ih hsorted hcheck hnext).trans ?_
      rw [List.append_assoc]
      rfl
    · exact ih hsorted hcheck hfresh

theorem find?_knownFields {fields : List (String × Json)} (hkey : key ∈ known) :
    ((knownFields known fields).find? (·.1 == key)).map (·.2) =
      (Keyed.find? key fields).map Doc.ofJson := by
  induction fields with
  | nil => rfl
  | cons p fields ih =>
    obtain ⟨k, v⟩ := p
    rw [Keyed.find?_cons, knownFields_cons]
    by_cases hk : k = key
    · subst hk
      have hfirst : ((k, Doc.ofJson v) :: knownFields known fields).find? (·.1 == k) =
          some (k, .ofJson v) :=
        List.find?_cons_of_pos (beq_self_eq_true k)
      rw [if_pos rfl, if_pos (List.contains_iff_mem.mpr hkey), hfirst]
      rfl
    · rw [if_neg hk, ← ih]
      split
      · rw [List.find?_cons_of_neg (by simpa using hk)]
      · rfl

/-- The known fields are those of an object, and there is room for each. -/
structure Found (fs : Fields) (known : List String) (j : Json) : Prop where
  named : fs.expected = none
  find? : ∀ key ∈ known, fs.find? key = (j.get? key).map Doc.ofJson
  room : ∀ key v, j.get? key = some v → Doc.Fits fs.source.limit v.depth

/-- **Every known field of an object is found**, if those there are pass
the check. -/
theorem exists_found_of_check (name : String) (known : List String)
    {check : Source → String → Doc → Except Mismatch Unit} {fields : List (String × Json)}
    {source : Source} (h : Doc.Fits source.limit (Json.ofFields fields).depth)
    (hcheck : ∀ within, ∀ p ∈ fields, known.contains p.1 = true →
      check within p.1 (.ofJson p.2) = .ok ()) :
    ∃ fs, checkedRecord name known check source (.ofJson (.ofFields fields)) = .ok fs ∧
      Found fs known (.ofFields fields) := by
  obtain ⟨within, hinside, hfits⟩ := Source.inside_of_fits h
  have hcollect : collect known (check within) [] (Doc.ofFields (Keyed.ofList fields)) =
      .ok ([] ++ knownFields known (Keyed.ofList fields)) :=
    collect_ofFields known (Keyed.sorted_ofList fields)
      (fun p hp => hcheck within p (Keyed.mem_of_mem_ofList hp)) fun _ _ _ hq => nomatch hq
  refine ⟨⟨within, _, none⟩, ?_, rfl, fun key hkey => find?_knownFields hkey, fun key v hget => ?_⟩
  · show (do
      let source ← source.inside
      return (⟨source, ← collect known (check source) []
        (Doc.ofFields (Keyed.ofList fields)), none⟩ : Fields)) = _
    rw [hinside, ok_bind, hcollect, List.nil_append]
    rfl
  · exact hfits.mono (Nat.le_of_lt_succ (Json.depth_lt_of_get? hget))

theorem exists_found (name : String) (known : List String) {fields : List (String × Json)}
    {source : Source} (h : Doc.Fits source.limit (Json.ofFields fields).depth) :
    ∃ fs, record name known source (.ofJson (.ofFields fields)) = .ok fs ∧
      Found fs known (.ofFields fields) :=
  exists_found_of_check name known h fun _ _ _ _ => rfl

namespace Found

variable {fs : Fields} {j : Json}

theorem require (h : Found fs known j) (hkey : key ∈ known) (hx : Undoes r write x)
    (hget : j.get? key = some (write x)) : fs.require key r = .ok x := by
  have hfind : fs.find? key = some (.ofJson (write x)) := by rw [h.find? key hkey, hget]; rfl
  rw [Fields.require, hfind]
  exact hx fs.source (h.room key _ hget)

theorem getD (h : Found fs known j) (hkey : key ∈ known) (hx : Undoes r write x) (default : α)
    (hget : j.get? key = some (write x)) : fs.getD key r default = .ok x := by
  have hfind : fs.find? key = some (.ofJson (write x)) := by rw [h.find? key hkey, hget]; rfl
  rw [Fields.getD, hfind]
  exact hx fs.source (h.room key _ hget)

theorem getD_missing (h : Found fs known j) (hkey : key ∈ known) (r : Reader α) (default : α)
    (hget : j.get? key = none) : fs.getD key r default = .ok default := by
  have hfind : fs.find? key = none := by rw [h.find? key hkey, hget]; rfl
  rw [Fields.getD, hfind]

/-- A list that is left out where it is empty is read, there or not. -/
theorem getD_list (h : Found fs known j) (hkey : key ∈ known) {xs : List α}
    (hxs : ∀ x ∈ xs, Undoes r write x)
    (hget : j.get? key = if xs = [] then none else some (.arr (xs.map write))) :
    fs.getD key (list r) [] = .ok xs := by
  split at hget
  · rename_i hnil
    rw [h.getD_missing hkey (list r) [] hget, hnil]
  · exact h.getD hkey (Undoes.list hxs) [] hget

/-- A field that is there or `null` is read. -/
theorem get? (h : Found fs known j) (hkey : key ∈ known) {o : Option α}
    (hnull : ∀ x, (write x).isNull = false) (hx : ∀ x ∈ o, Undoes r write x)
    (hget : j.get? key = some ((o.map write).getD .null)) : fs.get? key r = .ok o :=
  h.getD hkey (Undoes.option hnull hx) none hget

end Found

/-! ## What was read had room -/

theorem other_ne_ok {doc : Doc} : other name doc ≠ (.ok x : Except Mismatch α) := by
  rw [other.eq_def]
  split <;> exact fun h => nomatch h

theorem inside_of_record {source : Source} {doc : Doc} {fs : Fields}
    (h : record name known source doc = .ok fs) : source.inside = .ok fs.source := by
  unfold record checkedRecord at h
  split at h
  · obtain ⟨within, hinside, h⟩ := Except.exists_of_bind h
    obtain ⟨found, -, h⟩ := Except.exists_of_bind h
    cases h
    exact hinside
  · obtain ⟨within, hinside, h⟩ := Except.exists_of_bind h
    obtain ⟨found, -, h⟩ := Except.exists_of_bind h
    split at h
    · cases h
    · cases h
      exact hinside
  · exact absurd h other_ne_ok

/-- What was taken of a known name was taken before, or is the first field
of that name. -/
theorem find?_of_collect {fields : List (Option String × Doc)} {found taken : List (String × Doc)}
    (h : collect known (fun _ _ => .ok ()) found fields = .ok taken) (hkey : key ∈ known) :
    taken.find? (·.1 == key) = (found.find? (·.1 == key)).or
      ((fields.find? (·.1 == some key)).map fun field => (key, field.2)) := by
  induction fields generalizing found with
  | nil =>
    cases h
    rw [List.find?_nil, Option.map_none, Option.or_none]
  | cons field fields ih =>
    obtain ⟨k, doc⟩ := field
    cases k with
    | none => cases h
    | some k =>
      rw [collect] at h
      split at h
      · -- a name that comes twice is refused, so this is the first of it
        split at h
        · cases h
        · rw [ih h, List.find?_append, List.find?_cons, List.find?_cons]
          by_cases hk : k = key
          · subst hk
            simp
          · have hbeq : (k == key) = false := beq_false_of_ne hk
            simp [hbeq]
      · rename_i hnot
        have hk : k ≠ key := by
          rintro rfl
          exact hnot (List.contains_iff_mem.mpr hkey)
        have hbeq : (k == key) = false := beq_false_of_ne hk
        rw [ih h, List.find?_cons]
        simp [hbeq]

/-- **A known field that an object has is found.** -/
theorem find?_of_record {source : Source} {doc v : Doc} {fs : Fields}
    (h : record name known source doc = .ok fs) (hkey : key ∈ known)
    (hv : doc.field? key = some v) : fs.find? key = some v := by
  cases doc with
  | obj fields =>
    obtain ⟨field, hfield, rfl⟩ := Option.map_eq_some_iff.mp hv
    obtain ⟨within, -, h⟩ := Except.exists_of_bind h
    obtain ⟨taken, htaken, h⟩ := Except.exists_of_bind h
    cases h
    have hfind := find?_of_collect htaken hkey
    rw [List.find?_nil, hfield, Option.none_or, Option.map_some] at hfind
    rw [Fields.find?, hfind, Option.map_some]
  | _ => cases hv

/-- What is read of a list is read of its items in their places. -/
theorem forall₂_of_mapM {source : Source} {docs : List Doc} {xs : List α}
    (h : docs.mapM (r source) = .ok xs) :
    List.Forall₂ (fun doc x => r source doc = .ok x) docs xs := by
  induction docs generalizing xs with
  | nil =>
    cases h
    exact .nil
  | cons doc docs ih =>
    rw [List.mapM_cons] at h
    obtain ⟨y, hy, h⟩ := Except.exists_of_bind h
    obtain ⟨ys, hys, h⟩ := Except.exists_of_bind h
    cases h
    exact .cons hy (ih hys)

theorem exists_of_require {fs : Fields} (h : fs.require key r = .ok x) :
    ∃ doc, r fs.source doc = .ok x := by
  rw [Fields.require] at h
  split at h
  · exact ⟨_, h⟩
  · cases h
  · cases h

theorem exists_of_getD {fs : Fields} {default : α} (h : fs.getD key r default = .ok x) :
    x = default ∨ ∃ doc, r fs.source doc = .ok x := by
  rw [Fields.getD] at h
  split at h
  · exact Or.inr ⟨_, h⟩
  · exact Or.inl (Except.ok.inj h).symm

theorem lt_of_natBelow {bound n : Nat} {source : Source} {doc : Doc}
    (h : natBelow bound name source doc = .ok n) : n < bound := by
  unfold natBelow at h
  split at h
  · split at h
    · rename_i hlt
      cases h
      omega
    · cases h
  · exact absurd h other_ne_ok

/-- A free-form value that was read is in order and had room. -/
theorem fits_of_json {source : Source} {doc : Doc} {j : Json} (h : json source doc = .ok j) :
    j.ordered = true ∧ Doc.Fits source.limit j.depth := by
  rw [json] at h
  split at h
  · rename_i hread
    cases h
    exact Doc.fits_of_toJson? doc hread
  · cases h

/-- **A list was read one level in**, and its items there, in their places. -/
theorem forall₂_of_list {source : Source} {docs : List Doc} {xs : List α}
    (h : list r source (.arr docs) = .ok xs) :
    ∃ within, source.inside = .ok within ∧
      List.Forall₂ (fun doc x => r within doc = .ok x) docs xs := by
  obtain ⟨within, hinside, h⟩ := Except.exists_of_bind h
  exact ⟨within, hinside, forall₂_of_mapM h⟩

theorem exists_of_list {source : Source} {doc : Doc} {xs : List α}
    (h : list r source doc = .ok xs) :
    ∃ within, source.inside = .ok within ∧ ∀ x ∈ xs, ∃ doc, r within doc = .ok x := by
  unfold list at h
  split at h
  · obtain ⟨within, hinside, hall⟩ := forall₂_of_list h
    refine ⟨within, hinside, fun x hx => ?_⟩
    obtain ⟨i, hi, rfl⟩ := List.getElem_of_mem hx
    exact ⟨_, hall.get (hall.length_eq ▸ hi) hi⟩
  · exact absurd h other_ne_ok

/-- What is true of every item that is read one level in, and the room it
had there, is true of the items of a list, and there was room for it. -/
theorem fits_of_list {source : Source} {doc : Doc} {xs : List α} {P : α → Prop}
    (hr : ∀ within, source.inside = .ok within → ∀ doc x, r within doc = .ok x →
      P x ∧ Doc.Fits within.limit (write x).depth)
    (h : list r source doc = .ok xs) :
    (∀ x ∈ xs, P x) ∧ Doc.Fits source.limit (Json.arr (xs.map write)).depth := by
  obtain ⟨within, hinside, hitems⟩ := exists_of_list h
  have hread (x : α) (hx : x ∈ xs) : P x ∧ Doc.Fits within.limit (write x).depth := by
    obtain ⟨doc, hdoc⟩ := hitems x hx
    exact hr within hinside doc x hdoc
  refine ⟨fun x hx => (hread x hx).1, Source.fits_arr hinside ?_⟩
  exact List.forall_mem_map.mpr fun x hx => (hread x hx).2

/-- The same of a list that may be left out. -/
theorem fits_of_getD_list {fs : Fields} {xs : List α} {P : α → Prop}
    (hr : ∀ within, fs.source.inside = .ok within → ∀ doc x, r within doc = .ok x →
      P x ∧ Doc.Fits within.limit (write x).depth)
    (h : fs.getD key (list r) [] = .ok xs) :
    (∀ x ∈ xs, P x) ∧ (xs ≠ [] → Doc.Fits fs.source.limit (Json.arr (xs.map write)).depth) := by
  rcases exists_of_getD h with rfl | ⟨doc, hdoc⟩
  · exact ⟨fun _ hx => (nomatch hx), fun hne => absurd rfl hne⟩
  · obtain ⟨hall, hfits⟩ := fits_of_list hr hdoc
    exact ⟨hall, fun _ => hfits⟩

end Reader

end Turnstile
