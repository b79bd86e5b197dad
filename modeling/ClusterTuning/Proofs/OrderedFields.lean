import ClusterTuning.Data.Fields
import Mathlib.Data.String.Basic

/-!
# ClusterTuning.Proofs.OrderedFields

**Entries in the order of their names, as finite maps.**

`Fields.put` and `Fields.erase` keep entries in order, and in order entries are
determined by what they hold under each name (`eq_of_get?_eq`). That is what lets
everything above compare objects name by name.

The order of names is that of strings (`precedes_iff_lt`), so its laws come from the
linear order of `String`.
-/

namespace ClusterTuning

namespace Text

/-- Texts are compared by their code points, as lists of characters are. -/
theorem precedesChars_iff_lt (a b : List Char) : precedesChars a b = true ↔ a < b := by
  induction a generalizing b with
  | nil => cases b <;> simp [precedesChars]
  | cons c s ih =>
      cases b with
      | nil => simp [precedesChars]
      | cons d t =>
          rw [List.cons_lt_cons_iff, ← ih]
          by_cases hcd : c = d
          · subst hcd
            simp [precedesChars]
          · have hne : ¬ c.toNat = d.toNat := fun h => hcd (Char.toNat_inj.mp h)
            have hlt : c < d ↔ c.toNat < d.toNat := Iff.rfl
            simp [precedesChars, hcd, hne, hlt]

theorem precedes_iff_lt (a b : String) : precedes a b = true ↔ a < b := by
  rw [precedes, precedesChars_iff_lt, String.lt_iff_toList_lt]

end Text

namespace Fields

variable {α : Type}

/-- The names of the entries increase, so each of them occurs once. -/
def Ordered (fields : List (String × α)) : Prop :=
  (names fields).Pairwise (· < ·)

theorem ordered_nil : Ordered ([] : List (String × α)) :=
  List.Pairwise.nil

theorem ordered_cons_iff {key : String} {value : α} {rest : List (String × α)} :
    Ordered ((key, value) :: rest) ↔ (∀ name ∈ names rest, key < name) ∧ Ordered rest :=
  List.pairwise_cons

/-! ### What is stored under a name -/

theorem mem_names_of_get? {key : String} {value : α} {fields : List (String × α)}
    (h : get? key fields = some value) : key ∈ names fields := by
  induction fields with
  | nil => simp at h
  | cons field rest ih =>
      obtain ⟨k, v⟩ := field
      rw [get?] at h
      split at h
      · rename_i hk
        simp [names, hk]
      · exact List.mem_cons_of_mem _ (ih h)

theorem mem_of_get? {key : String} {value : α} {fields : List (String × α)}
    (h : get? key fields = some value) : (key, value) ∈ fields := by
  induction fields with
  | nil => simp at h
  | cons field rest ih =>
      obtain ⟨k, v⟩ := field
      rw [get?] at h
      split at h
      · rename_i hk
        simp_all
      · exact List.mem_cons_of_mem _ (ih h)

theorem get?_eq_none_of_not_mem {key : String} {fields : List (String × α)}
    (h : key ∉ names fields) : get? key fields = none := by
  cases hg : get? key fields with
  | none => rfl
  | some v => exact absurd (mem_names_of_get? hg) h

theorem isSome_get?_iff {key : String} {fields : List (String × α)} :
    (get? key fields).isSome = true ↔ key ∈ names fields := by
  constructor
  · intro h
    obtain ⟨v, hv⟩ := Option.isSome_iff_exists.mp h
    exact mem_names_of_get? hv
  · intro h
    induction fields with
    | nil => cases h
    | cons field rest ih =>
        obtain ⟨k, v⟩ := field
        rw [get?]
        split
        · rfl
        · rename_i hk
          exact ih ((List.mem_cons.mp h).resolve_left (Ne.symm hk))

theorem Ordered.get?_tail {key : String} {value : α} {rest : List (String × α)}
    (h : Ordered ((key, value) :: rest)) : get? key rest = none := by
  refine get?_eq_none_of_not_mem ?_
  intro hmem
  exact lt_irrefl key ((ordered_cons_iff.mp h).1 key hmem)

/-- Entries in order are determined by what they hold under each name. -/
theorem eq_of_get?_eq : ∀ {a b : List (String × α)}, Ordered a → Ordered b →
    (∀ key, get? key a = get? key b) → a = b
  | [], [], _, _, _ => rfl
  | [], (k, v) :: b, _, _, h => by simpa [get?] using h k
  | (k, v) :: a, [], _, _, h => by simpa [get?] using h k
  | (k, v) :: a, (j, w) :: b, ha, hb, h => by
      have hk := h k
      have hj := h j
      have hkj : k = j := by
        by_contra hne
        -- otherwise each of the two first names would stand behind the other one
        have hget : get? k b = some v := by simpa [get?, Ne.symm hne] using hk.symm
        have hget' : get? j a = some w := by simpa [get?, hne] using hj
        exact lt_asymm ((ordered_cons_iff.mp hb).1 k (mem_names_of_get? hget))
          ((ordered_cons_iff.mp ha).1 j (mem_names_of_get? hget'))
      subst hkj
      have hvw : v = w := by simpa [get?] using hk
      subst hvw
      have htail : a = b := by
        refine eq_of_get?_eq (ordered_cons_iff.mp ha).2 (ordered_cons_iff.mp hb).2 ?_
        intro key
        by_cases hkey : k = key
        · subst hkey
          rw [ha.get?_tail, hb.get?_tail]
        · simpa [get?, hkey] using h key
      rw [htail]

/-! ### Storing and removing keep the order -/

theorem mem_put {field : String × α} {key : String} {value : α} {fields : List (String × α)}
    (h : field ∈ put key value fields) : field = (key, value) ∨ field ∈ fields := by
  induction fields with
  | nil => simpa [put] using h
  | cons head rest ih =>
      obtain ⟨k, v⟩ := head
      rw [put] at h
      split at h
      · exact (List.mem_cons.mp h).imp_right (List.mem_cons_of_mem _)
      · split at h
        · exact List.mem_cons.mp h
        · rcases List.mem_cons.mp h with h | h
          · exact Or.inr (h ▸ List.mem_cons_self)
          · exact (ih h).imp_right (List.mem_cons_of_mem _)

theorem mem_names_put {name key : String} {value : α} {fields : List (String × α)}
    (h : name ∈ names (put key value fields)) : name = key ∨ name ∈ names fields := by
  obtain ⟨field, hfield, rfl⟩ := List.mem_map.mp h
  rcases mem_put hfield with rfl | hfield
  · exact Or.inl rfl
  · exact Or.inr (List.mem_map_of_mem hfield)

theorem mem_names_put_iff {name key : String} {value : α} {fields : List (String × α)} :
    name ∈ names (put key value fields) ↔ name = key ∨ name ∈ names fields := by
  refine ⟨mem_names_put, ?_⟩
  rw [← isSome_get?_iff, ← isSome_get?_iff, get?_put]
  rintro (rfl | h)
  · simp
  · split
    · rfl
    · exact h

/-- A field is put in at its place, so the order is kept. -/
theorem Ordered.put {fields : List (String × α)} (h : Ordered fields) (key : String) (value : α) :
    Ordered (Fields.put key value fields) := by
  induction fields with
  | nil => exact List.pairwise_singleton _ _
  | cons field rest ih =>
      obtain ⟨k, v⟩ := field
      obtain ⟨hlt, hrest⟩ := ordered_cons_iff.mp h
      rw [Fields.put]
      split
      · -- the field is replaced in its place
        rename_i hk
        subst hk
        exact ordered_cons_iff.mpr ⟨hlt, hrest⟩
      · rename_i hk
        split
        · -- the field comes before all others
          rename_i hp
          have hkey : key < k := (Text.precedes_iff_lt _ _).mp hp
          refine ordered_cons_iff.mpr ⟨fun name hname => ?_, h⟩
          rcases List.mem_cons.mp hname with rfl | hname
          · exact hkey
          · exact lt_trans hkey (hlt name hname)
        · -- the field comes somewhere behind the first one
          rename_i hp
          have hkey : k < key := by
            rcases lt_trichotomy k key with hlt' | heq | hgt
            · exact hlt'
            · exact absurd heq hk
            · exact absurd ((Text.precedes_iff_lt _ _).mpr hgt) hp
          refine ordered_cons_iff.mpr ⟨fun name hname => ?_, ih hrest⟩
          rcases mem_names_put hname with rfl | hname
          · exact hkey
          · exact hlt name hname

theorem Ordered.sublist {a b : List (String × α)} (hb : Ordered b) (h : a.Sublist b) :
    Ordered a :=
  List.Pairwise.sublist (h.map Prod.fst) hb

theorem Ordered.erase {fields : List (String × α)} (h : Ordered fields) (key : String) :
    Ordered (Fields.erase key fields) :=
  h.sublist (List.filter_sublist)

theorem erase_eq_self {key : String} {fields : List (String × α)} (h : key ∉ names fields) :
    erase key fields = fields := by
  refine List.filter_eq_self.mpr fun field hfield => decide_eq_true ?_
  rintro rfl
  exact h (List.mem_map_of_mem hfield)

theorem Ordered.putAll {fields : List (String × α)} (h : Ordered fields)
    (entries : List (String × α)) : Ordered (Fields.putAll fields entries) := by
  induction entries generalizing fields with
  | nil => exact h
  | cons entry rest ih => exact ih (h.put entry.1 entry.2)

theorem ordered_ofList (entries : List (String × α)) : Ordered (ofList entries) :=
  ordered_nil.putAll entries

theorem mem_putAll {field : String × α} {fields entries : List (String × α)}
    (h : field ∈ putAll fields entries) : field ∈ fields ∨ field ∈ entries := by
  induction entries generalizing fields with
  | nil => exact Or.inl h
  | cons entry rest ih =>
      rcases ih h with h | h
      · rcases mem_put h with rfl | h
        · exact Or.inr List.mem_cons_self
        · exact Or.inl h
      · exact Or.inr (List.mem_cons_of_mem _ h)

theorem mem_names_putAll_iff {name : String} {fields entries : List (String × α)} :
    name ∈ names (putAll fields entries) ↔ name ∈ names fields ∨ name ∈ names entries := by
  induction entries generalizing fields with
  | nil => simp [putAll, names]
  | cons entry rest ih =>
      have hstep : putAll fields (entry :: rest) = putAll (put entry.1 entry.2 fields) rest := rfl
      have hnames : names (entry :: rest) = entry.1 :: names rest := rfl
      rw [hstep, ih, mem_names_put_iff, hnames, List.mem_cons, or_assoc, or_left_comm]

theorem mem_ofList {field : String × α} {entries : List (String × α)}
    (h : field ∈ ofList entries) : field ∈ entries :=
  (mem_putAll h).resolve_left List.not_mem_nil

/-! ### Storing what is there already -/

/-- Of two fields that are put under one name the last one counts. -/
theorem put_put (key : String) (a b : α) (fields : List (String × α)) :
    put key a (put key b fields) = put key a fields := by
  induction fields with
  | nil => simp [put]
  | cons field rest ih =>
      obtain ⟨name, v⟩ := field
      by_cases hname : name = key
      · simp [put, hname]
      · by_cases hprecedes : Text.precedes key name = true
        · simp [put, hname, hprecedes]
        · simp [put, hname, hprecedes, ih]

/-- Putting in what is there changes nothing. -/
theorem put_eq_self {fields : List (String × α)} (h : Ordered fields) {key : String} {value : α}
    (hget : get? key fields = some value) : put key value fields = fields := by
  refine eq_of_get?_eq (h.put key value) h ?_
  intro name
  rw [get?_put]
  split
  · rename_i hname
    rw [← hname, hget]
  · rfl

/-! ### Building from entries -/

/-- Under a name lies the last entry that was put in, and else what was there before. -/
theorem get?_putAll (key : String) (fields entries : List (String × α)) :
    get? key (putAll fields entries) = (get? key (ofList entries)).or (get? key fields) := by
  induction entries generalizing fields with
  | nil => rfl
  | cons entry rest ih =>
      have hfirst := ih (put entry.1 entry.2 fields)
      have halone := ih (put entry.1 entry.2 [])
      rw [putAll] at hfirst halone
      rw [putAll, ofList, List.foldl_cons, List.foldl_cons, hfirst, halone, get?_put, get?_put]
      split <;> simp

/-- Of two lists of entries the second one decides where it has a say. -/
theorem get?_ofList_append (key : String) (front back : List (String × α)) :
    get? key (ofList (front ++ back)) = (get? key (ofList back)).or (get? key (ofList front)) := by
  have hsplit : ofList (front ++ back) = putAll (ofList front) back := by
    rw [ofList, List.foldl_append]
    rfl
  rw [hsplit, get?_putAll]

/-- Of several entries of one name the last one decides. -/
theorem get?_ofList (key : String) (entries : List (String × α)) :
    get? key (ofList entries) =
      entries.reverse.findSome? fun entry => if entry.1 = key then some entry.2 else none := by
  induction entries with
  | nil => rfl
  | cons entry rest ih =>
      have hsplit := get?_ofList_append key [entry] rest
      rw [List.singleton_append] at hsplit
      rw [hsplit, ih, List.reverse_cons, List.findSome?_append]
      by_cases hkey : entry.1 = key
      · simp [ofList, put, get?, hkey]
      · simp [ofList, put, get?, hkey]

/-- Entries in order are built from themselves. -/
theorem ofList_eq_self {fields : List (String × α)} (h : Ordered fields) :
    ofList fields = fields := by
  induction fields with
  | nil => rfl
  | cons field rest ih =>
      obtain ⟨k, v⟩ := field
      refine eq_of_get?_eq (ordered_ofList _) h fun key => ?_
      have hsplit := get?_ofList_append key [(k, v)] rest
      rw [List.singleton_append, ih (ordered_cons_iff.mp h).2] at hsplit
      rw [hsplit]
      by_cases hk : k = key
      · subst hk
        simp [ofList, put, get?, h.get?_tail]
      · simp [ofList, put, get?, hk]

end Fields

end ClusterTuning
