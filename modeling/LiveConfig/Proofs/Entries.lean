import LiveConfig.Value

/-!
Contract: what entries answer and hold after a change.

Owns: the lookup laws of insertion and erasure, which do not need the order of keys, and that both change
nothing but what is under one key, which does; what a property map holds of a list of bindings; and maps
over other maps.
-/

namespace LiveConfig.Entries

variable {α : Type}

/-- Insertion changes what is found under one key. -/
theorem find?_insert (key other : String) (value : α) (entries : Entries α) :
    (entries.insert key value).find? other =
      if other = key then some value else entries.find? other := by
  induction entries with
  | nil => by_cases same : key = other <;> simp [insert, find?, eq_comm, same]
  | cons head rest inductionHypothesis =>
      obtain ⟨candidate, old⟩ := head
      simp only [insert]
      split
      · by_cases same : key = other <;> simp [find?, eq_comm, same]
      · split
        · rename_i sameKey
          subst sameKey
          by_cases same : key = other <;> simp [find?, eq_comm, same]
        · rename_i differs
          simp only [find?, inductionHypothesis]
          by_cases isCandidate : candidate = other
          · subst isCandidate
            simp [Ne.symm differs]
          · simp [isCandidate]

/-- Erasure changes what is found under one key. -/
theorem find?_erase (key other : String) (entries : Entries α) :
    (erase key entries).find? other = if other = key then none else entries.find? other := by
  induction entries with
  | nil => simp [erase, find?]
  | cons head rest inductionHypothesis =>
      obtain ⟨candidate, old⟩ := head
      simp only [erase] at inductionHypothesis
      by_cases erased : candidate = key
      · subst erased
        by_cases same : other = candidate
        · simpa [erase, same] using inductionHypothesis
        · simpa [erase, find?, same, Ne.symm same] using inductionHypothesis
      · by_cases isCandidate : candidate = other
        · subst isCandidate
          simp [erase, find?, erased]
        · simpa [erase, find?, erased, isCandidate] using inductionHypothesis

theorem find?_map {β : Type} (change : α → β) (key : String) (entries : Entries α) :
    find? key (entries.map fun entry => (entry.1, change entry.2)) =
      (entries.find? key).map change := by
  induction entries with
  | nil => rfl
  | cons head rest inductionHypothesis =>
      simp only [List.map_cons, find?]
      split
      · rfl
      · exact inductionHypothesis

/-! ### What is held -/

variable {key : String} {value : α} {entries : Entries α}

theorem ascending_erase (ascending : entries.Ascending) : (erase key entries).Ascending :=
  ascending.sublist List.filter_sublist

theorem erase_eq_self (absent : ∀ entry ∈ entries, entry.1 ≠ key) : erase key entries = entries :=
  List.filter_eq_self.mpr fun entry member => decide_eq_true (absent entry member)

theorem erase_of_find?_eq_none (missing : entries.find? key = none) : erase key entries = entries := by
  apply erase_eq_self
  induction entries with
  | nil => exact fun _ member => nomatch member
  | cons head rest inductionHypothesis =>
      rw [find?] at missing
      split at missing
      · cases missing
      · rename_i differs
        exact List.forall_mem_cons.mpr ⟨differs, inductionHypothesis missing⟩

theorem erase_erase (key : String) (entries : Entries α) :
    erase key (erase key entries) = erase key entries := by
  simp [erase]

/-- In entries with ascending keys, a key stands once. -/
theorem perm_of_find? (ascending : entries.Ascending) (found : entries.find? key = some value) :
    entries.Perm ((key, value) :: erase key entries) := by
  induction entries with
  | nil => cases found
  | cons head rest inductionHypothesis =>
      obtain ⟨headFirst, restAscending⟩ := List.pairwise_cons.mp ascending
      obtain ⟨candidate, old⟩ := head
      rw [find?] at found
      split at found
      · rename_i same
        subst same
        obtain rfl := Option.some.inj found
        have alone : erase candidate rest = rest := erase_eq_self fun entry member same => by
          have less := headFirst entry member
          rw [same] at less
          exact String.lt_irrefl _ less
        have erased : erase candidate ((candidate, old) :: rest) = erase candidate rest := by
          simp [erase]
        rw [erased, alone]
      · rename_i differs
        have kept : erase key ((candidate, old) :: rest) = (candidate, old) :: erase key rest := by
          simp [erase, differs]
        rw [kept]
        exact ((inductionHypothesis restAscending found).cons _).trans (.swap ..)

theorem erase_insert (key : String) (value : α) (entries : Entries α) :
    erase key (entries.insert key value) = erase key entries := by
  induction entries with
  | nil => simp [insert, erase]
  | cons head rest inductionHypothesis =>
      obtain ⟨candidate, old⟩ := head
      simp only [insert]
      split
      · simp [erase]
      · split
        · rename_i same
          simp [erase, same]
        · simp only [erase, List.filter_cons] at inductionHypothesis ⊢
          rw [inductionHypothesis]

theorem perm_insert (ascending : entries.Ascending) (key : String) (value : α) :
    (entries.insert key value).Perm ((key, value) :: erase key entries) := by
  have bound : (entries.insert key value).find? key = some value := by
    rw [find?_insert, if_pos rfl]
  rw [← erase_insert key value entries]
  exact perm_of_find? (ascending_insert ascending) bound

theorem mem_of_find? (found : entries.find? key = some value) : (key, value) ∈ entries := by
  induction entries with
  | nil => cases found
  | cons head rest inductionHypothesis =>
      obtain ⟨candidate, old⟩ := head
      rw [find?] at found
      split at found
      · rename_i same
        subst same
        obtain rfl := Option.some.inj found
        exact List.mem_cons_self
      · exact List.mem_cons_of_mem _ (inductionHypothesis found)

theorem find?_of_mem (ascending : entries.Ascending) (member : (key, value) ∈ entries) :
    entries.find? key = some value := by
  induction entries with
  | nil => cases member
  | cons head rest inductionHypothesis =>
      obtain ⟨headFirst, restAscending⟩ := List.pairwise_cons.mp ascending
      rcases List.mem_cons.mp member with rfl | later
      · simp [find?]
      · have differs : head.1 ≠ key := fun same => String.lt_irrefl _ (same ▸ headFirst _ later)
        simp [find?, differs, inductionHypothesis restAscending later]

/-! ### Keys -/

theorem mem_keys_iff : key ∈ entries.keys ↔ (entries.find? key).isSome := by
  induction entries with
  | nil => simp [keys, find?]
  | cons head rest inductionHypothesis =>
      simp only [keys] at inductionHypothesis
      simp only [keys, List.map_cons, List.mem_cons, find?, inductionHypothesis]
      by_cases same : head.1 = key
      · simp [same]
      · simp [same, Ne.symm same]

end LiveConfig.Entries

namespace LiveConfig.PropertyMap

/-- Bindings that are inserted in turn come before what was bound already, and the last of one key comes
first. -/
theorem find?_foldl_insert (pairs : List (String × Value)) (map : PropertyMap) (key : String) :
    (pairs.foldl (fun map pair => map.insert pair.1 pair.2) map).find? key =
      ((pairs.findRev? (·.1 = key)).map Prod.snd).or (map.find? key) := by
  induction pairs generalizing map with
  | nil => rfl
  | cons pair pairs inductionHypothesis =>
      have inserted : (map.insert pair.1 pair.2).find? key =
          if key = pair.1 then some pair.2 else map.find? key :=
        Entries.find?_insert pair.1 key pair.2 map.entries
      rw [List.foldl_cons, inductionHypothesis, inserted, List.findRev?]
      cases pairs.findRev? (·.1 = key) with
      | some later => rfl
      | none =>
          by_cases same : pair.1 = key
          · simp [same]
          · simp [same, Ne.symm same]

/-- Of the bindings of one key, the last one counts. -/
theorem find?_ofList (pairs : List (String × Value)) (key : String) :
    (ofList pairs).find? key = (pairs.findRev? (·.1 = key)).map Prod.snd := by
  rw [ofList, find?_foldl_insert]
  exact Option.or_none ..

theorem mem_keys_ofList {pairs : List (String × Value)} {key : String} :
    key ∈ (ofList pairs).keys ↔ ∃ value, (key, value) ∈ pairs := by
  have found : key ∈ (ofList pairs).keys ↔ ((ofList pairs).find? key).isSome := Entries.mem_keys_iff
  rw [found, find?_ofList, Option.isSome_map, List.findRev?_eq_find?_reverse, List.find?_isSome]
  simp only [List.mem_reverse, decide_eq_true_eq]
  exact ⟨fun ⟨pair, member, same⟩ => ⟨pair.2, same ▸ member⟩, fun ⟨value, member⟩ => ⟨_, member, rfl⟩⟩

/-- A map is determined by its bindings in any order. -/
theorem eq_of_perm {map other : PropertyMap} (perm : map.entries.Perm other.entries) : map = other := by
  have same : map.entries = other.entries := by
    refine perm.eq_of_pairwise (fun entry later _ _ before behind => ?_) map.ascending other.ascending
    exact absurd behind (String.lt_asymm before)
  cases map
  cases other
  cases same
  rfl

theorem perm_foldl_insert (map : PropertyMap) {pairs : List (String × Value)}
    (distinct : ((map.entries ++ pairs).map Prod.fst).Nodup) :
    (pairs.foldl (fun map pair => map.insert pair.1 pair.2) map).entries.Perm (map.entries ++ pairs) := by
  induction pairs generalizing map with
  | nil => simp
  | cons pair rest inductionHypothesis =>
      have isNew : ∀ entry ∈ map.entries, entry.1 ≠ pair.1 := by
        rw [List.map_append, List.nodup_append] at distinct
        exact fun entry member => distinct.2.2 _ (List.mem_map_of_mem member) _ List.mem_cons_self
      have inserted : (map.insert pair.1 pair.2).entries.Perm (pair :: map.entries) := by
        have perm := Entries.perm_insert map.ascending pair.1 pair.2
        rwa [Entries.erase_eq_self isNew] at perm
      have moved : ((map.insert pair.1 pair.2).entries ++ rest).Perm (map.entries ++ pair :: rest) :=
        (inserted.append_right rest).trans List.perm_middle.symm
      rw [List.foldl_cons]
      apply List.Perm.trans _ moved
      apply inductionHypothesis (map.insert pair.1 pair.2)
      exact (moved.map Prod.fst).nodup_iff.mpr distinct

/-- The bindings of a map, inserted in any order, make the map. -/
theorem ofList_eq_of_perm {map : PropertyMap} {pairs : List (String × Value)}
    (perm : pairs.Perm map.entries) : ofList pairs = map := by
  have ascending : (map.entries.map Prod.fst).Pairwise (· < ·) := List.pairwise_map.mpr map.ascending
  have distinct : (pairs.map Prod.fst).Nodup := by
    refine (perm.map Prod.fst).nodup_iff.mpr (ascending.imp fun less same => ?_)
    exact String.lt_irrefl _ (same ▸ less)
  exact eq_of_perm ((perm_foldl_insert empty distinct).trans perm)

/-! ### Maps over maps -/

/-- The bindings of a map with those of another one over them. -/
def overriddenBy (below above : PropertyMap) : PropertyMap :=
  above.entries.foldl (fun map entry => map.insert entry.1 entry.2) below

variable {map other : PropertyMap}

/-- A map is determined by what it answers. -/
theorem eq_of_find? (same : ∀ key, map.find? key = other.find? key) : map = other := by
  have distinct (map : PropertyMap) : map.entries.Nodup := by
    apply map.ascending.imp
    intro entry later less same
    rw [same] at less
    exact String.lt_irrefl _ less
  have found (map : PropertyMap) (entry : String × Value) :
      entry ∈ map.entries ↔ map.find? entry.1 = some entry.2 :=
    ⟨Entries.find?_of_mem map.ascending, Entries.mem_of_find?⟩
  apply eq_of_perm
  apply (List.perm_ext_iff_of_nodup (distinct map) (distinct other)).mpr
  intro entry
  rw [found, found, same]

/-- A map over another one answers first. -/
theorem find?_overriddenBy (below above : PropertyMap) (key : String) :
    (below.overriddenBy above).find? key = (above.find? key).or (below.find? key) := by
  have aboveFound : above.find? key = (above.entries.findRev? (·.1 = key)).map Prod.snd := by
    rw [← find?_ofList, ofList_eq_of_perm (List.Perm.refl above.entries)]
  rw [overriddenBy, find?_foldl_insert, aboveFound]

/-- The later ones of two lists of bindings make a map over that of the earlier ones. -/
theorem ofList_append (earlier later : List (String × Value)) :
    ofList (earlier ++ later) = (ofList earlier).overriddenBy (ofList later) := by
  apply eq_of_find?
  intro key
  rw [find?_overriddenBy, find?_ofList later, ofList, List.foldl_append, find?_foldl_insert]
  rfl

end LiveConfig.PropertyMap
