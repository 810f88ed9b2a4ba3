import ReleaseSearch.Proofs.Decimal.Shortest
import ReleaseSearch.Proofs.Json.Numeral
import ReleaseSearch.Proofs.Results.Fields
import ReleaseSearch.Proofs.Results.Size

/-!
# Counts in data

The size and the peers of a release may be numbers of JSON.  Such a number is turned into a text,
and the digits of the text are read.  A whole number comes out as it is.  The text of a double ends
in a point and a zero, and as the point is passed over, the zero counts as a digit: `5.0` and `5e0`
come out as 50.
-/

namespace ReleaseSearch

open Results

/-- The whole numbers that every release has. -/
inductive Count where
  | size
  | seeders
  | leechers

namespace Count

def name : Count → String
  | size => "size"
  | seeders => "seeders"
  | leechers => "leechers"

def of (r : Release) : Count → Nat
  | size => r.size
  | seeders => r.seeders
  | leechers => r.leechers

end Count

namespace Results

open Text Decimal

/-! ## Reading digits -/

/-- A digit, a point or a minus sign. -/
def isNumeric (c : Char) : Bool := isAsciiDigit c || c == '.' || c == '-'

theorem isNumeric_cases {c : Char} (h : isNumeric c = true) :
    isAsciiDigit c = true ∨ c = '.' ∨ c = '-' := by
  simpa [isNumeric, or_assoc] using h

/-- Such a text shows no unit, so that it is read as a number of bytes. -/
theorem value_readSize {s : String} (h : ∀ c ∈ s.toList, isNumeric c = true) :
    (readSize s).value = wholeNumber s := by
  have hblank : ∀ c ∈ s.toList, isBlank c = false := by
    intro c hc
    rcases isNumeric_cases (h c hc) with hdigit | rfl | rfl
    · exact isBlank_of_isAsciiDigit hdigit
    · rfl
    · rfl
  have hstrip : strip s = s := strip_eq_self hblank
  -- There is a letter in every unit.
  have hunit : sizeUnit? s = none := by
    refine List.find?_eq_none.mpr fun unit hunit hany => ?_
    obtain ⟨label, hlabel, hshown⟩ := List.any_eq_true.mp hany
    have hB := (occursIn_iff.mp hshown).subset (IsLabel.mem_toList ⟨unit, hunit, hlabel⟩)
    exact absurd (h 'B' hB) (by decide)
  rw [value_readSize_of_none (hstrip.symm ▸ hunit), hstrip]

/-- The number that the digits of a text make. -/
theorem wholeNumber_ofList {cs digits : List Char} (hdigits : digitsOf cs = digits)
    (h : AreDigits digits) (hne : digits ≠ []) (hlength : digits.length ≤ digitLimit) :
    wholeNumber (String.ofList cs) = digitsValue digits := by
  unfold wholeNumber wholeNumber?
  rw [String.toList_ofList, hdigits]
  dsimp only
  rw [if_neg (by simp [hne]; omega), h.filterMap_digitValue?, ofDigits_map]
  rfl

theorem digitsOf_of_areDigits {cs : List Char} (h : AreDigits cs) : digitsOf cs = cs :=
  List.filter_eq_self.mpr fun c hc => isDigit_of_isAsciiDigit (h c hc)

/-! ## Numbers as texts -/

/-- The number that the digits of the text of a number make. -/
def readBack (number : Number) (n : Nat) : Nat :=
  match number with
  | .whole _ => n
  | .real _ => 10 * n

/-- **The digits of the text of a number**: those of a whole number, and one more of a double. -/
theorem text_of_fraction? {number : Number} {n : Nat} (hn : n < 10 ^ 15)
    (hworth : number.fraction? = some (n : Rat)) :
    (∀ c ∈ number.text.toList, isNumeric c = true) ∧
      wholeNumber number.text = readBack number n := by
  have hdigits := areDigits_natDigits n
  have hlength : (natDigits n).length ≤ 15 := (length_natDigits_le_iff (by decide)).mpr hn
  -- only digits are kept, so the point is lost and the zero after it counts
  have hpoint : digitsOf (natDigits n ++ ['.', '0']) = natDigits n ++ ['0'] := by
    have hzero : digitsOf ['.', '0'] = ['0'] := by rfl
    unfold digitsOf at hzero ⊢
    rw [List.filter_append, hzero]
    exact congrArg (· ++ ['0']) (digitsOf_of_areDigits hdigits)
  match number with
  | .whole m =>
      have hm : m = n := by
        have : (m : Rat) = (n : Rat) := Option.some.inj hworth
        exact_mod_cast this
      subst hm
      show (∀ c ∈ (intText n).toList, isNumeric c = true) ∧ wholeNumber (intText n) = n
      rw [intText_natCast, String.toList_ofList]
      refine ⟨fun c hc => by simp [isNumeric, hdigits c hc], ?_⟩
      rw [wholeNumber_ofList (digitsOf_of_areDigits hdigits) hdigits (natDigits_ne_nil n),
        digitsValue_natDigits]
      unfold digitLimit
      omega
  | .real x =>
      show (∀ c ∈ (floatText x).toList, isNumeric c = true) ∧ wholeNumber (floatText x) = 10 * n
      rcases floatText_of_fraction? hn hworth with htext | ⟨rfl, htext⟩
      -- a double is written with a point
      · have hzero : AreDigits ['0'] := areDigits_iff.mpr rfl
        have htail : ∀ c ∈ ['.', '0'], isNumeric c = true := List.all_eq_true.mp rfl
        rw [htext, String.toList_ofList]
        constructor
        · intro c hc
          rcases List.mem_append.mp hc with hdigit | hpoint
          · simp [isNumeric, hdigits c hdigit]
          · exact htail c hpoint
        · rw [wholeNumber_ofList hpoint (areDigits_append.mpr ⟨hdigits, hzero⟩) (by simp),
            digitsValue_append, digitsValue_natDigits]
          · show n * 10 ^ 1 + 0 = 10 * n
            omega
          · rw [List.length_append, List.length_singleton]
            unfold digitLimit
            omega
      -- zero
      · rw [htext]
        exact ⟨List.all_eq_true.mp rfl, by rfl⟩

/-! ## Counts of a release -/

/-- The count of a release is read from the text of its field. -/
theorem count_release {row : Row} {count : Count} {s : String}
    (hvalue : row.value? count.name = some ↑s) (hnumeric : ∀ c ∈ s.toList, isNumeric c = true)
    (title link indexer : String) (quality : Option Quality) :
    count.of (row.release title link indexer quality) = wholeNumber s := by
  cases count with
  | size =>
      show (readLineSize ((row.value? "size").getD "")).value = _
      rw [show row.value? "size" = some ↑s from hvalue]
      exact value_readSize hnumeric
  | seeders =>
      show (integerOrZero row "seeders").value = _
      unfold integerOrZero
      rw [show row.value? "seeders" = some ↑s from hvalue]
      exact value_readInteger s
  | leechers =>
      show (integerOrZero row "leechers").value = _
      unfold integerOrZero
      rw [show row.value? "leechers" = some ↑s from hvalue]
      exact value_readInteger s

section

variable [Pattern.Library]

/-- A field without filters has the text of the number that it shows. -/
theorem value?_of_number {es : Entries} {fields : List (String × FieldSelector)}
    (hdistinct : (fields.map Prod.fst).Nodup) {name : String} {field : FieldSelector}
    (hfield : (name, field) ∈ fields) (hplain : field.filters = []) {number : Number}
    (hshown : Data.find? field.selector es = some (.ofNumber number)) :
    (Row.ofShown (shownIn es) fields).value? name = some ↑number.text := by
  have htext : plainValue? (.ofNumber number) = some number.text := by cases number <;> rfl
  rw [Row.value?_ofShown hdistinct hfield]
  unfold FieldSelector.valueFrom shownIn
  rw [hshown, Option.bind_some, htext, hplain]
  rfl

/-- **A count in data**: in the release of a row, it is the number that the row shows for it if that
is written with digits alone, and ten times this number if it is written with a point or a power of
ten. -/
theorem ofData_count {d : Definition} {rowsAt : RowSelector} {body : Body} {found : Data}
    (hrows : d.rowSelector = some rowsAt) (hsoft : d.IsSoft) (hdistinct : d.HasDistinctFields)
    {extract : Quality.Extractor} {quality : Line → Option Quality}
    (hextract : Quality.Answers extract quality) (name : Option String)
    (hfound : LeadsTo body rowsAt found) {es : Entries} (hrow : .map es ∈ rowsOf found)
    (hcomplete : (Row.ofShown (shownIn es) d.fieldSelectors).isComplete = true) {count : Count}
    {field : FieldSelector} (hfield : (count.name, field) ∈ d.fieldSelectors)
    (hplain : field.filters = []) {num : Json.Numeral} (hvalid : num.IsValid) {n : Nat}
    (hn : n < 10 ^ 15) (hworth : num.value = n)
    (hshown : Data.find? field.selector es = Json.read true num.text) :
    ∃ releases r, (ofData d body name extract).outcome = .ok releases ∧
      d.dataRelease? (tagName d name) quality (.map es) = some r ∧ r ∈ releases ∧
      count.of r = if num.isPlain then n else 10 * n := by
  -- The numeral is read as a number, the number is put in words, and the words are read back.
  obtain ⟨number, hread, hnumber, hkind⟩ := hvalid.read_text hn hworth true
  obtain ⟨hnumeric, hwhole⟩ := text_of_fraction? hn hnumber
  have hvalue := value?_of_number hdistinct hfield hplain (hshown.trans hread)
  obtain ⟨⟨title, htitle⟩, ⟨link, hlink⟩⟩ := Row.isComplete_iff.mp hcomplete
  obtain ⟨title, rfl⟩ := whole_of_value? (Row.filled?_eq_some_iff.mp htitle).1
  obtain ⟨link, rfl⟩ := whole_of_value? (Row.filled?_eq_some_iff.mp hlink).1
  have hrelease : d.dataRelease? (tagName d name) quality (.map es) =
      some ((Row.ofShown (shownIn es) d.fieldSelectors).release title link (tagName d name)
        (quality title)) := by
    show Row.release? _ _ _ = _
    unfold Row.release?
    rw [htitle, hlink]
  refine ⟨_, _, outcome_ofData hrows hsoft hextract name hfound, hrelease,
    List.mem_filterMap.mpr ⟨_, hrow, hrelease⟩, ?_⟩
  rw [count_release hvalue hnumeric, hwhole]
  unfold readBack
  -- a numeral is plain exactly if it is read as a whole number
  cases number with
  | whole m => rw [if_pos (hkind.mp ⟨m, rfl⟩)]
  | real x => rw [if_neg fun h => by obtain ⟨m, hm⟩ := hkind.mpr h; cases hm]

end

open Pattern.Bare

/-- A definition that takes the seeders of a release as they are. -/
def countIndex : Definition where
  id := "counts"
  rowSelector := some { selector := "$" }
  fieldSelectors :=
    [("title", { selector := "t" }), ("download", { selector := "u" }),
      ("seeders", { selector := "n" })]

theorem countIndex_isSoft : countIndex.IsSoft := by
  intro field hfield filter hfilter
  have hplain : ∀ field ∈ countIndex.fieldSelectors, field.2.filters = [] := by
    unfold countIndex
    simp
  rw [hplain field hfield] at hfilter
  cases hfilter

/-- An answer that writes one count with a digit alone, and another one with a point. -/
def countAnswer : Body :=
  .text ("[\x7b\"t\": \"A\", \"u\": \"m\", \"n\": 7\x7d, "
    ++ "\x7b\"t\": \"B\", \"u\": \"m\", \"n\": 5.0\x7d]")

def pointedCount : Json.Numeral := { whole := ['5'], fraction := ['0'] }

def countRow (title : String) (seeders : Data) : Entries :=
  [(.text "t", .text title), (.text "u", .text "m"), (.text "n", seeders)]

/-- The texts in a value of the form of the answer, its whole number and the bits of its double. -/
def countParts? : Except Trouble Data → Option (List String × Int × UInt64)
  | .ok (.list [.map [(.text a, .text b), (.text c, .text d), (.text e, .int n)],
      .map [(.text f, .text g), (.text h, .text i), (.text j, .float x)]]) =>
      some ([a, b, c, d, e, f, g, h, i, j], n, x.toBits)
  | _ => none

theorem countAnswer_leadsTo :
    LeadsTo countAnswer { selector := "$" }
      (.list [.map (countRow "A" (.int 7)), .map (countRow "B" (.float 5))]) := by
  refine ⟨_, ?_, rfl⟩
  have h : countParts? (readData countAnswer) =
      some (["t", "A", "u", "m", "n", "t", "B", "u", "m", "n"], 7, (5 : Float).toBits) := by
    decide +kernel
  unfold countParts? at h
  split at h
  · next heq =>
    rw [heq]
    simp only [Option.some.injEq, Prod.mk.injEq, List.cons.injEq] at h
    obtain ⟨⟨rfl, rfl, rfl, rfl, rfl, rfl, rfl, rfl, rfl, rfl, _⟩, rfl, hbits⟩ := h
    rw [eq_of_toBits hbits]
    rfl
  · cases h

def doubleBits? : Option Data → Option UInt64
  | some (.float x) => some x.toBits
  | _ => none

theorem read_pointedCount : Json.read true pointedCount.text = some (.float 5) := by
  have h : doubleBits? (Json.read true pointedCount.text) = some (5 : Float).toBits := by
    decide +kernel
  unfold doubleBits? at h
  split at h
  · next heq => rw [heq, eq_of_toBits (Option.some.inj h)]
  · cases h

theorem pointedCount_isValid : pointedCount.IsValid where
  whole := areDigits_iff.mpr rfl
  whole_ne_nil := by decide
  zero_alone rest h := by cases h
  fraction := areDigits_iff.mpr rfl
  exponent e h := by cases h

theorem value_pointedCount : pointedCount.value = 5 := by decide +kernel

/-- The count with a point is read as fifty, ten times what it is. -/
theorem ofData_count_sample :
    ∃ releases r, (ofData countIndex countAnswer none Quality.standard).outcome = .ok releases ∧
      r ∈ releases ∧ r.seeders = 50 := by
  have hdistinct : countIndex.HasDistinctFields := by
    unfold Definition.HasDistinctFields countIndex
    decide
  have hfield : (Count.seeders.name, ({ selector := "n" } : FieldSelector)) ∈
      countIndex.fieldSelectors := by simp [countIndex, Count.name]
  have hrow : .map (countRow "B" (.float 5)) ∈
      rowsOf (.list [.map (countRow "A" (.int 7)), .map (countRow "B" (.float 5))]) :=
    List.mem_cons_of_mem _ List.mem_cons_self
  obtain ⟨releases, r, hreleases, _, hr, hcount⟩ :=
    ofData_count (d := countIndex) (n := 5) rfl countIndex_isSoft hdistinct
      Quality.standard_answers none countAnswer_leadsTo hrow (by decide +kernel) hfield rfl
      pointedCount_isValid (by decide) value_pointedCount read_pointedCount.symm
  exact ⟨releases, r, hreleases, hr, hcount⟩

/-- **A count that is written with a point is not read as the number that it is.** -/
theorem pointedCount_misread :
    pointedCount.IsValid ∧ pointedCount.value = 5 ∧
      Json.read true pointedCount.text = some (.float 5) ∧
      LeadsTo countAnswer { selector := "$" }
        (.list [.map (countRow "A" (.int 7)), .map (countRow "B" (.float 5))]) ∧
      (ofData countIndex countAnswer none Quality.standard).outcome.toOption.map
        (·.map (·.seeders)) = some [7, 50] :=
  ⟨pointedCount_isValid, value_pointedCount, read_pointedCount, countAnswer_leadsTo,
    by decide +kernel⟩

end Results

end ReleaseSearch
