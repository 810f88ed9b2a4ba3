import Mathlib.Data.List.Sort
import Mathlib.Data.String.Basic
import ReleaseSearch.Catalogue.Directory
import ReleaseSearch.Proofs.Text.Pieces

/-!
# What a directory lists

Listing goes from the names of files to the names of definitions, and finding goes the other way: it
puts each of the known endings behind a name.  Taking an ending off and putting it on undo each
other, unless nothing stands before the ending:

    ending name = e ∧ stem name = id ↔ id ≠ "" ∧ name = id ++ e

So a name is listed if a file is found for it, and it is listed once for each of its files.
-/

namespace ReleaseSearch.Catalogue

open Text

/-! ## Endings -/

theorem lastPoint?_append {front back : List Char} (hfront : front ≠ []) (hback : back ≠ [])
    (hpoint : '.' ∉ back) : lastPoint? (front ++ '.' :: back) = some front.length := by
  have hafter : (front ++ '.' :: back).reverse.takeWhile (· != '.') = back.reverse := by
    have hreverse : (front ++ '.' :: back).reverse = back.reverse ++ '.' :: front.reverse := by
      simp
    rw [hreverse, List.takeWhile_append_of_pos, List.takeWhile_cons_of_neg (by simp),
      List.append_nil]
    intro c hc
    exact bne_iff_ne.mpr fun heq => hpoint (heq ▸ List.mem_reverse.mp hc)
  have hfront : 0 < front.length := List.length_pos_iff.mpr hfront
  have hback : 0 < back.length := List.length_pos_iff.mpr hback
  have hlength : (front ++ '.' :: back).length = front.length + (back.length + 1) := by simp
  unfold lastPoint?
  dsimp only
  rw [hafter, List.length_reverse, hlength, if_neg (by omega)]
  exact congrArg some (by omega)

/-- A last point that counts does not start the name. -/
theorem lastPoint?_bounds {cs : List Char} {i : Nat} (h : lastPoint? cs = some i) :
    0 < i ∧ i ≤ cs.length := by
  unfold lastPoint? at h
  dsimp only at h
  split at h
  · cases h
  · cases h
    omega

theorem stem_append_ending (name : String) : stem name ++ ending name = name := by
  unfold stem ending
  cases lastPoint? name.toList with
  | none => exact String.append_empty
  | some i =>
      rw [← String.ofList_append, List.take_append_drop, String.ofList_toList]

theorem stem_ne_empty {name : String} (h : ending name ≠ "") : stem name ≠ "" := by
  unfold ending at h
  unfold stem
  cases hpoint : lastPoint? name.toList with
  | none =>
      rw [hpoint] at h
      exact absurd rfl h
  | some i =>
      obtain ⟨hpos, hle⟩ := lastPoint?_bounds hpoint
      intro hempty
      have hlength := congrArg (·.toList.length) hempty
      rw [String.toList_ofList, List.length_take, String.toList_empty, List.length_nil] at hlength
      omega

/-- An ending is a point and something behind it that has no point. -/
theorem exists_of_mem_endings {e : String} (h : e ∈ endings) :
    ∃ back, e.toList = '.' :: back ∧ back ≠ [] ∧ '.' ∉ back ∧ '/' ∉ back := by
  have hall : ∀ e ∈ endings, e.toList = '.' :: e.toList.tail ∧ e.toList.tail ≠ [] ∧
      '.' ∉ e.toList.tail ∧ '/' ∉ e.toList.tail := by decide
  exact ⟨e.toList.tail, hall e h⟩

/-- **An ending is taken off where it was put on**, if something stands before it. -/
theorem ending_iff {name id e : String} (he : e ∈ endings) :
    ending name = e ∧ stem name = id ↔ id ≠ "" ∧ name = id ++ e := by
  obtain ⟨back, hback, hne, hpoint, -⟩ := exists_of_mem_endings he
  constructor
  · rintro ⟨rfl, rfl⟩
    refine ⟨stem_ne_empty fun hempty => ?_, (stem_append_ending name).symm⟩
    rw [hempty] at hback
    cases hback
  · rintro ⟨hid, rfl⟩
    have hfront : id.toList ≠ [] := fun hnil => hid (String.toList_inj.mp hnil)
    have hlast : lastPoint? (id ++ e).toList = some id.toList.length := by
      rw [String.toList_append, hback, lastPoint?_append hfront hne hpoint]
    unfold ending stem
    rw [hlast]
    dsimp only
    rw [String.toList_append, List.drop_left, List.take_left, String.ofList_toList,
      String.ofList_toList]
    exact ⟨rfl, rfl⟩

/-! ## Files -/

namespace Directory

variable {d : Directory} {id name : String}

def names (d : Directory) : List String := (d.files.getD []).map (·.1)

/-- The files of a definition, in the order in which they count. -/
def filesOf (d : Directory) (id : String) : List String :=
  (endings.map (id ++ ·)).filter fun name => (d.content? name).isSome

theorem find?_eq_head? (d : Directory) (id : String) : d.find? id = (d.filesOf id).head? :=
  List.head?_filter.symm

/-- No two files share a name, and there is no separator in a name. -/
structure IsSound (d : Directory) : Prop where
  distinct : d.names.Nodup
  plain : ∀ name ∈ d.names, '/' ∉ name.toList

theorem isSound_empty (path : String) : IsSound ⟨path, some []⟩ where
  distinct := List.nodup_nil
  plain _ h := absurd h List.not_mem_nil

theorem names_write (d : Directory) (name : String) (content : List UInt8) :
    (d.write name content).names = d.names.filter (· != name) ++ [name] := by
  unfold names write
  rw [Option.getD_some, List.map_append, List.filter_map]
  rfl

/-- Writing a file leaves a directory sound. -/
theorem IsSound.write (h : d.IsSound) (hname : '/' ∉ name.toList) (content : List UInt8) :
    (d.write name content).IsSound where
  distinct := by
    rw [names_write, List.nodup_append]
    refine ⟨h.distinct.filter _, List.nodup_singleton name, ?_⟩
    intro other hother _ hself heq
    rw [List.mem_singleton.mp hself] at heq
    simpa [heq] using (List.mem_filter.mp hother).2
  plain other hother := by
    rw [names_write] at hother
    rcases List.mem_append.mp hother with hold | hnew
    · exact h.plain other (List.mem_filter.mp hold).1
    · exact List.mem_singleton.mp hnew ▸ hname

/-- A name without separators has a content if there is a file of that name. -/
theorem isSome_content?_iff (hplain : '/' ∉ name.toList) (hempty : name ≠ "")
    (hpoint : name ≠ ".") : (d.content? name).isSome ↔ name ∈ d.names := by
  have hstart : name.startsWith "/" = false := by
    rw [← Bool.not_eq_true, String.startsWith_string_iff]
    exact fun hslash => hplain (hslash.subset (by decide))
  have hparts : (pieces '/' name).filter (fun part => part != "" && part != ".") = [name] := by
    unfold pieces
    rw [splitOn_of_not_mem hplain, List.map_singleton, String.ofList_toList]
    exact List.filter_cons_of_pos (by simp [hempty, hpoint])
  unfold content? names
  cases d.files with
  | none => simp
  | some files =>
      simp only [Option.bind_eq_bind, Option.bind_some, hstart, Bool.false_eq_true, if_false]
      rw [hparts]
      simp [List.find?_isSome]

/-- The files of a definition are those that have its name before a known ending. -/
theorem mem_filesOf_iff (hplain : '/' ∉ id.toList) :
    name ∈ d.filesOf id ↔ name ∈ d.names ∧ ∃ e ∈ endings, name = id ++ e := by
  have hthere {e : String} (he : e ∈ endings) :
      (d.content? (id ++ e)).isSome ↔ id ++ e ∈ d.names := by
    obtain ⟨back, hback, hne, -, hslash⟩ := exists_of_mem_endings he
    have hchars : (id ++ e).toList = id.toList ++ '.' :: back := by
      rw [String.toList_append, hback]
    -- a plain name with an ending is a name in the directory itself: it leads nowhere else
    refine isSome_content?_iff ?_ ?_ ?_
    · rw [hchars]
      simp [hplain, hslash]
    · intro h
      simp [h] at hchars
    · intro h
      have hlength := congrArg List.length (h ▸ hchars)
      have hlong := List.length_pos_iff.mpr hne
      rw [List.length_append, List.length_cons] at hlength
      have : ".".toList.length = 1 := rfl
      omega
  unfold filesOf
  rw [List.mem_filter, List.mem_map]
  constructor
  · rintro ⟨⟨e, he, rfl⟩, h⟩
    exact ⟨(hthere he).mp h, e, he, rfl⟩
  · rintro ⟨h, e, he, rfl⟩
    exact ⟨⟨e, he, rfl⟩, (hthere he).mpr h⟩

/-! ## The list -/

theorem available_eq (d : Directory) :
    d.available = ((d.names.filter fun name => endings.contains (ending name)).map stem).mergeSort
      fun a b => a ≤ b := rfl

/-- What is listed is sorted. -/
theorem available_sorted (d : Directory) : d.available.Pairwise (· ≤ ·) :=
  List.pairwise_mergeSort' (· ≤ ·) _

/-- **A name is listed once for each of its files**, if it is not empty. -/
theorem count_available (hdistinct : d.names.Nodup) (hplain : '/' ∉ id.toList) (hid : id ≠ "") :
    d.available.count id = (d.filesOf id).length := by
  have hcount : d.available.count id =
      (d.names.filter fun name => stem name == id && endings.contains (ending name)).length := by
    rw [available_eq, (List.mergeSort_perm _ _).count_eq, List.count, List.countP_map,
      List.countP_filter, List.countP_eq_length_filter]
    rfl
  have hfiles : (d.filesOf id).Nodup := by
    refine List.Nodup.filter _ (List.Nodup.map ?_ (by decide))
    exact fun a b h => (String.append_right_inj id).mp h
  rw [hcount]
  refine List.Perm.length_eq ((List.perm_ext_iff_of_nodup (hdistinct.filter _) hfiles).mpr ?_)
  intro name
  rw [mem_filesOf_iff hplain, List.mem_filter, Bool.and_eq_true, beq_iff_eq, List.contains_iff_mem]
  refine and_congr_right fun _ => ?_
  constructor
  · rintro ⟨hstem, hending⟩
    exact ⟨ending name, hending, ((ending_iff hending).mp ⟨rfl, hstem⟩).2⟩
  · rintro ⟨e, he, hname⟩
    obtain ⟨hending, hstem⟩ := (ending_iff he).mpr ⟨hid, hname⟩
    exact ⟨hstem, hending ▸ he⟩

/-- Only a name that stands before a known ending is listed, and no empty one. -/
theorem exists_of_mem_available (h : id ∈ d.available) :
    id ≠ "" ∧ ∃ e ∈ endings, id ++ e ∈ d.names := by
  rw [available_eq, List.mem_mergeSort] at h
  obtain ⟨name, hname, hstem⟩ := List.mem_map.mp h
  obtain ⟨hname, hending⟩ := List.mem_filter.mp hname
  have he : ending name ∈ endings := List.contains_iff_mem.mp hending
  obtain ⟨hid, heq⟩ := (ending_iff he).mp ⟨rfl, hstem⟩
  exact ⟨hid, ending name, he, heq ▸ hname⟩

theorem IsSound.plain_of_mem_available (h : d.IsSound) (hid : id ∈ d.available) :
    '/' ∉ id.toList := by
  obtain ⟨-, e, -, hname⟩ := exists_of_mem_available hid
  have hplain := h.plain _ hname
  rw [String.toList_append] at hplain
  exact fun hmem => hplain (List.mem_append_left _ hmem)

/-- **What is listed is what is found.** -/
theorem IsSound.mem_available_iff (h : d.IsSound) (hplain : '/' ∉ id.toList) :
    id ∈ d.available ↔ id ≠ "" ∧ (d.find? id).isSome := by
  have hlisted (hid : id ≠ "") : id ∈ d.available ↔ (d.find? id).isSome := by
    rw [← List.count_pos_iff, count_available h.distinct hplain hid, find?_eq_head?,
      List.isSome_head?, List.length_pos_iff]
  constructor
  · intro hmem
    have hid := (exists_of_mem_available hmem).1
    exact ⟨hid, (hlisted hid).mp hmem⟩
  · rintro ⟨hid, hfound⟩
    exact (hlisted hid).mpr hfound

/-- What is listed is strictly sorted if nothing is listed twice. -/
theorem available_strict_iff_nodup (d : Directory) :
    d.available.Pairwise (· < ·) ↔ d.available.Nodup := by
  rw [← List.sortedLT_iff_pairwise, List.sortedLT_iff_nodup_and_sortedLE]
  exact and_iff_left (available_sorted d).sortedLE

/-- **What a directory lists.**

* The list is sorted.
* A name is listed if there is a file for it and the name is not empty.
* It is listed as often as there are files for it.
* So the list is strictly sorted if no name has two files, and only then. -/
theorem IsSound.available_finds (h : d.IsSound) :
    d.available.Pairwise (· ≤ ·) ∧
    (∀ id, '/' ∉ id.toList → (id ∈ d.available ↔ id ≠ "" ∧ (d.find? id).isSome)) ∧
    (∀ id, '/' ∉ id.toList → id ≠ "" → d.available.count id = (d.filesOf id).length) ∧
    (d.available.Pairwise (· < ·) ↔
      ∀ id, '/' ∉ id.toList → id ≠ "" → (d.filesOf id).length ≤ 1) := by
  refine ⟨available_sorted d, fun id hplain => h.mem_available_iff hplain,
    fun id hplain hid => count_available h.distinct hplain hid, ?_⟩
  rw [available_strict_iff_nodup, List.nodup_iff_count_le_one]
  constructor
  · intro hcount id hplain hid
    exact count_available h.distinct hplain hid ▸ hcount id
  · intro hfiles id
    by_cases hmem : id ∈ d.available
    · have hplain := h.plain_of_mem_available hmem
      have hid := (exists_of_mem_available hmem).1
      exact count_available h.distinct hplain hid ▸ hfiles id hplain hid
    · rw [List.count_eq_zero_of_not_mem hmem]
      exact Nat.zero_le 1

/-- A directory into which some empty files were written. -/
def holding (names : List String) : Directory :=
  names.foldl (fun d name => d.write name []) ⟨"", some []⟩

theorem holding_isSound {names : List String} (h : ∀ name ∈ names, '/' ∉ name.toList) :
    (holding names).IsSound := by
  unfold holding
  generalize hstart : (⟨"", some []⟩ : Directory) = start
  have hsound : start.IsSound := hstart ▸ isSound_empty ""
  clear hstart
  induction names generalizing start with
  | nil => exact hsound
  | cons name names ih =>
      obtain ⟨hname, hnames⟩ := List.forall_mem_cons.mp h
      exact ih hnames _ (hsound.write hname [])

/-- A directory with names that have several points, and one that is an ending only. -/
def pointed : Directory := holding ["b..yml", "a.b.json", ".yml", "notes.txt"]

theorem available_finds_pointed :
    pointed.IsSound ∧ "a.b" ∈ pointed.available ∧ "b." ∈ pointed.available ∧
      pointed.available.count "b." = 1 ∧ "notes" ∉ pointed.available := by
  have hsound : pointed.IsSound := holding_isSound (by decide)
  obtain ⟨-, hfound, hcount, -⟩ := hsound.available_finds
  refine ⟨hsound, (hfound "a.b" (by decide)).mpr (by decide +kernel),
    (hfound "b." (by decide)).mpr (by decide +kernel), ?_, ?_⟩
  · rw [hcount "b." (by decide) (by decide)]
    decide +kernel
  · rw [hfound "notes" (by decide)]
    decide +kernel

/-- A name with files of two formats is listed twice; and a file that is an ending only is found for
the empty name, which is not listed. -/
theorem listed_twice :
    (holding ["a.yml", "a.json"]).IsSound ∧
      (holding ["a.yml", "a.json"]).available = ["a", "a"] ∧
      ¬ (holding ["a.yml", "a.json"]).available.Pairwise (· < ·) ∧
      (holding [".yml"]).IsSound ∧ (holding [".yml"]).find? "" = some ".yml" ∧
      "" ∉ (holding [".yml"]).available := by
  have hstems : ((holding ["a.yml", "a.json"]).names.filter fun name =>
      endings.contains (ending name)).map stem = ["a", "a"] := by decide +kernel
  have htwice : (holding ["a.yml", "a.json"]).available = ["a", "a"] := by
    rw [available_eq, hstems]
    exact List.mergeSort_of_pairwise (by decide)
  refine ⟨holding_isSound (by decide), htwice, ?_, holding_isSound (by decide), by decide +kernel,
    fun h => (exists_of_mem_available h).1 rfl⟩
  rw [htwice]
  decide

end Directory

end ReleaseSearch.Catalogue
