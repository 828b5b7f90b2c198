import MinEntropy.Proofs.Samples.Letters

/-! Compaction: the presence table, the index filled from it and the shortcut that leaves the
samples as they are all rename a masked sample to its rank among the letters. -/

namespace MinEntropy.Samples

/-! The presence table and the greatest value. -/

theorem getElem_foldl_presence (values : List UInt8) (seen : Vector Bool 256) {i : Nat}
    (hi : i < 256) :
    (values.foldl (fun seen v => seen.set v.toNat true v.toNat_lt) seen)[i] = true ↔
      seen[i] = true ∨ ∃ v ∈ values, v.toNat = i := by
  induction values generalizing seen with
  | nil => simp
  | cons v rest ih =>
    have hset : (seen.set v.toNat true v.toNat_lt)[i] = true ↔
        seen[i] = true ∨ v.toNat = i := by
      rw [Vector.getElem_set]
      by_cases hv : v.toNat = i <;> simp [hv]
    rw [List.foldl_cons, ih, hset, List.exists_mem_cons_iff, or_assoc]

theorem getElem_presence (values : List UInt8) {i : Nat} (hi : i < 256) :
    (presence values)[i] = true ↔ ∃ v ∈ values, v.toNat = i := by
  rw [presence, getElem_foldl_presence]
  simp

theorem foldl_max_bounds (values : List UInt8) (g : UInt8) :
    g ≤ values.foldl max g ∧ ∀ v ∈ values, v ≤ values.foldl max g := by
  induction values generalizing g with
  | nil => simp
  | cons v rest ih =>
    obtain ⟨hstart, hrest⟩ := ih (max g v)
    have hmax : g ≤ max g v ∧ v ≤ max g v := by
      change g ≤ (if g ≤ v then v else g) ∧ v ≤ (if g ≤ v then v else g)
      split
      · exact ⟨‹_›, UInt8.le_refl v⟩
      · exact ⟨UInt8.le_refl g, UInt8.le_of_lt (UInt8.not_le.1 ‹_›)⟩
    refine ⟨UInt8.le_trans hmax.1 hstart, fun u hu => ?_⟩
    rcases List.mem_cons.1 hu with rfl | hu
    · exact UInt8.le_trans hmax.2 hstart
    · exact hrest u hu

theorem le_greatest {values : List UInt8} {v : UInt8} (hv : v ∈ values) : v ≤ greatest values :=
  (foldl_max_bounds values 0).2 v hv

/-! The index. -/

namespace Index

/-- Some letters, taken in increasing order, have been numbered. -/
structure Numbers (ix : Index) (done : List (Fin 256)) : Prop where
  size_eq : ix.size = done.length
  place_eq : ∀ l ∈ done, ix.place[l] = UInt8.ofNat (done.countP (· < l))

theorem Numbers.empty : Numbers Index.empty [] := ⟨rfl, by simp⟩

theorem Numbers.add {ix : Index} {done : List (Fin 256)} {letter : Fin 256}
    (hix : Numbers ix done) (hlt : ∀ l ∈ done, l < letter) :
    Numbers (ix.add letter) (done ++ [letter]) := by
  refine ⟨?_, fun l hl => ?_⟩
  · simp [Index.add, hix.size_eq]
  · rw [List.countP_append]
    rcases List.mem_append.1 hl with hold | hnew
    · -- A greater letter changes neither the place of an old one nor its count.
      have hne : letter.val ≠ l.val := Nat.ne_of_gt (hlt l hold)
      have hnot : ¬ letter < l := not_lt.2 (hlt l hold).le
      have hplace := hix.place_eq l hold
      rw [Fin.getElem_fin] at hplace
      simp [Index.add, hne, hnot, hplace]
    · have hcount : done.countP (· < letter) = done.length :=
        List.countP_eq_length.2 fun m hm => decide_eq_true (hlt m hm)
      rw [List.mem_singleton.1 hnew]
      simp [Index.add, hix.size_eq, hcount]

theorem Numbers.foldl {ix : Index} {done rest : List (Fin 256)} (hix : Numbers ix done)
    (hsorted : (done ++ rest).Pairwise (· < ·)) :
    Numbers (rest.foldl Index.add ix) (done ++ rest) := by
  induction rest generalizing ix done with
  | nil => simpa using hix
  | cons l rest ih =>
    have hlt : ∀ m ∈ done, m < l := fun m hm =>
      (List.pairwise_append.1 hsorted).2.2 m hm l List.mem_cons_self
    have hnext := ih (hix.add hlt) (by simpa using hsorted)
    simpa using hnext

theorem observed_sorted (w : WordSize) (seen : Vector Bool 256) :
    (observed w seen).Pairwise (· < ·) :=
  ((List.pairwise_lt_finRange 256).sublist (List.take_sublist _ _)).filter _

theorem ofPresence_numbers (w : WordSize) (seen : Vector Bool 256) :
    Numbers (ofPresence w seen) (observed w seen) :=
  Numbers.empty.foldl (observed_sorted w seen)

end Index

/-- The index that preparation builds. -/
def indexOf (w : WordSize) (data : List UInt8) : Index :=
  Index.ofPresence w (presence (masked w data))

section Index

variable {w : WordSize} {data : List UInt8}

theorem mem_observed {l : Fin 256} :
    l ∈ Index.observed w (presence (masked w data)) ↔ l.val ∈ letters w data := by
  rw [Index.observed, List.mem_filter, Fin.getElem_fin, getElem_presence _ l.isLt, ← mem_letters]
  refine ⟨fun h => h.2, fun h => ⟨?_, h⟩⟩
  have hlt := lt_of_mem_letters h
  exact List.mem_take_iff_getElem.2 ⟨l.val, by
    rw [List.length_finRange]
    exact lt_min hlt l.isLt, by simp⟩

theorem observed_toFinset :
    ((Index.observed w (presence (masked w data))).map Fin.val).toFinset = letters w data := by
  ext n
  rw [List.mem_toFinset, List.mem_map]
  constructor
  · rintro ⟨l, hl, rfl⟩
    exact mem_observed.1 hl
  · intro hn
    have hlt : n < 256 := (lt_of_mem_letters hn).trans_le (two_pow_bits_le w)
    exact ⟨⟨n, hlt⟩, mem_observed.2 hn, rfl⟩

theorem observed_nodup :
    ((Index.observed w (presence (masked w data))).map Fin.val).Nodup :=
  List.Nodup.map Fin.val_injective ((Index.observed_sorted w _).imp Fin.ne_of_lt)

theorem size_indexOf : (indexOf w data).size = (letters w data).card := by
  rw [indexOf, (Index.ofPresence_numbers w _).size_eq, ← observed_toFinset,
    List.toFinset_card_of_nodup observed_nodup, List.length_map]

theorem countP_observed (l : Fin 256) :
    (Index.observed w (presence (masked w data))).countP (· < l) =
      rank (letters w data) l.val := by
  rw [← observed_toFinset, rank_toFinset observed_nodup, List.countP_map]
  rfl

theorem toNat_find_indexOf {v : UInt8} (hv : v ∈ masked w data) :
    ((indexOf w data).find v).toNat = rank (letters w data) v.toNat := by
  have hmem : (⟨v.toNat, v.toNat_lt⟩ : Fin 256) ∈
      Index.observed w (presence (masked w data)) :=
    mem_observed.2 (mem_letters.2 ⟨v, hv, rfl⟩)
  have hplace := (Index.ofPresence_numbers w _).place_eq _ hmem
  rw [Fin.getElem_fin, countP_observed] at hplace
  rw [indexOf, Index.find, hplace, UInt8.toNat_ofNat']
  exact Nat.mod_eq_of_lt (rank_le.trans_lt v.toNat_lt)

/-- Where the count of letters reaches the greatest value, no smaller value is missing. -/
theorem letters_eq_range
    (hfull : (greatest (masked w data)).toNat + 1 ≤ (letters w data).card) :
    letters w data = Finset.range ((greatest (masked w data)).toNat + 1) := by
  apply Finset.eq_of_subset_of_card_le
  · intro n hn
    obtain ⟨v, hv, rfl⟩ := mem_letters.1 hn
    exact Finset.mem_range.2 (Nat.lt_succ_of_le (UInt8.le_iff_toNat_le.1 (le_greatest hv)))
  · rwa [Finset.card_range]

theorem map_find_eq_self {n : Nat} (hrange : letters w data = Finset.range n) :
    (masked w data).map (indexOf w data).find = masked w data := by
  refine (List.map_congr_left fun v hv => ?_).trans (List.map_id _)
  have hlt : v.toNat < n := by
    rw [← Finset.mem_range, ← hrange]
    exact mem_letters.2 ⟨v, hv, rfl⟩
  apply UInt8.toNat_inj.1
  rw [toNat_find_indexOf hv, hrange, rank_eq_self (Finset.range_subset_range.2 hlt.le)]
  rfl

/-- The shortcut does what the index would do. -/
theorem compact_eq_map_find :
    compact (indexOf w data) (masked w data) = (masked w data).map (indexOf w data).find := by
  unfold compact
  split
  · rfl
  · rename_i hfull
    rw [size_indexOf, not_lt] at hfull
    exact (map_find_eq_self (letters_eq_range hfull)).symm

end Index

end MinEntropy.Samples
