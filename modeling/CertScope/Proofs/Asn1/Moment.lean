import CertScope.Proofs.Asn1.Encoding
import CertScope.Proofs.Calendar
import CertScope.Proofs.Trust.Time

/-!
# Seconds as they are written

A second of the years that four digits write has one form: year, month, day, hour,
minute and second in digits, and the letter for UTC.  Reading that form leads back to
the second, by way of a date that the calendar finds for it.
-/

namespace CertScope.Asn1

open PathReader (Spells SpellsClock isVisible_of_digit)
open Strict (headerOf)

/-- A second of the years 0 to 9999. -/
structure Moment where
  seconds : Int
  begun : -62167219200 ≤ seconds
  ended : seconds ≤ 253402300799

def decimalOctet (digit : Nat) : UInt8 := UInt8.ofNat (48 + digit)

def decimalPair (number : Nat) : Bytes :=
  [decimalOctet (number / 10), decimalOctet (number % 10)]

theorem decimalDigit?_decimalOctet {digit : Nat} (below : digit < 10) :
    decimalDigit? (decimalOctet digit) = some digit := by
  have octet : (decimalOctet digit).toNat = 48 + digit := by
    rw [decimalOctet, UInt8.toNat_ofNat']
    omega
  refine PathReader.decimalDigit?_eq_some.2 ⟨⟨?_, ?_⟩, by omega⟩
  · rw [UInt8.le_iff_toNat_le, octet]
    simp only [UInt8.reduceToNat]
    omega
  · rw [UInt8.le_iff_toNat_le, octet]
    simp only [UInt8.reduceToNat]
    omega

theorem spells_decimalPair {number : Nat} (below : number < 100) :
    Spells (decimalOctet (number / 10)) (decimalOctet (number % 10)) number :=
  ⟨number / 10, number % 10, decimalDigit?_decimalOctet (by omega),
    decimalDigit?_decimalOctet (by omega), by omega⟩

namespace Moment

variable (moment : Moment) {depth : Nat}

def instant : Instant := .ofSeconds moment.seconds

/-- The second as a civil time in UTC. -/
def civil : CivilTime where
  year := moment.instant.date.year.toNat
  month := moment.instant.date.month
  day := moment.instant.date.day
  hour := moment.instant.secondOfDay / 3600
  minute := moment.instant.secondOfDay / 60 % 60
  second := moment.instant.secondOfDay % 60
  millis := none
  zone := .utc

def clock : Bytes :=
  let time := moment.civil
  decimalPair time.month ++ decimalPair time.day ++ decimalPair time.hour ++
    decimalPair time.minute ++ decimalPair time.second ++ [90]

def text : Bytes :=
  decimalPair (moment.civil.year / 100) ++ decimalPair (moment.civil.year % 100) ++ moment.clock

def encode : Bytes := Asn1.encode 0x18 moment.text

def node : Node := .mk (headerOf 0x18 moment.text) (.generalizedTime moment.civil)

theorem year_bounds : 0 ≤ moment.instant.date.year ∧ moment.instant.date.year ≤ 9999 := by
  have low := moment.begun
  have high := moment.ended
  have first : Date.toDays ⟨0, 1, 1⟩ = -719528 := by decide
  have next : Date.toDays ⟨9999 + 1, 1, 1⟩ = 2932897 := by decide
  rw [Instant.date, Date.year_ofDays_bounds_iff, first, next]
  simp only [instant, Instant.ofSeconds]
  omega

theorem century_lt : moment.civil.year / 100 < 100 := by
  obtain ⟨-, high⟩ := moment.year_bounds
  simp only [civil]
  omega

/-- Two pairs of digits make up the year. -/
theorem century_add : moment.civil.year / 100 * 100 + moment.civil.year % 100 =
    moment.civil.year := by
  omega

theorem spellsClock :
    SpellsClock moment.clock moment.civil.month moment.civil.day moment.civil.hour
      moment.civil.minute moment.civil.second := by
  have valid : moment.instant.date.isValid = true := Date.isValid_ofDays _
  simp only [Date.isValid, Bool.and_eq_true, decide_eq_true_eq] at valid
  obtain ⟨⟨⟨-, month⟩, -⟩, last⟩ := valid
  have day := Nat.le_trans last (Date.daysIn_le _ _)
  have second := moment.instant.secondOfDay_lt
  have hour : moment.civil.hour ≤ 23 := by
    simp only [civil]
    omega
  have minute : moment.civil.minute ≤ 59 := by
    simp only [civil]
    omega
  have seconds : moment.civil.second ≤ 59 := by
    simp only [civil]
    omega
  refine ⟨⟨_, _, _, _, _, _, _, _, _, _, rfl, ?_, ?_, ?_, ?_, ?_⟩, month, day, hour, minute,
    seconds⟩
  · exact spells_decimalPair (Nat.lt_of_le_of_lt month (by decide))
  · exact spells_decimalPair (Nat.lt_of_le_of_lt day (by decide))
  · exact spells_decimalPair (Nat.lt_of_le_of_lt hour (by decide))
  · exact spells_decimalPair (Nat.lt_of_le_of_lt minute (by decide))
  · exact spells_decimalPair (Nat.lt_of_le_of_lt seconds (by decide))

theorem timeOf_text : timeOf Tag.generalizedTime moment.text = .ok moment.civil := by
  have hundreds := spells_decimalPair moment.century_lt
  have ones := spells_decimalPair (Nat.mod_lt moment.civil.year (by decide : 0 < 100))
  have clock := moment.spellsClock
  have read := PathReader.readGeneralizedTime_of_clock hundreds ones clock
  have visible : moment.text.all isVisible = true := by
    have digits : (decimalPair (moment.civil.year / 100) ++
        decimalPair (moment.civil.year % 100)).all isVisible = true := by
      simp only [decimalPair, List.cons_append, List.nil_append, List.all_cons, List.all_nil,
        isVisible_of_digit hundreds.bounds.1, isVisible_of_digit hundreds.bounds.2,
        isVisible_of_digit ones.bounds.1, isVisible_of_digit ones.bounds.2, Bool.and_self]
    rw [text, List.all_append, digits, clock.all_isVisible, Bool.and_self]
  have long : Tag.generalizedTime ≠ Tag.utcTime := by decide
  rw [moment.century_add] at read
  simp only [timeOf, visible, Bool.not_true, Bool.false_eq_true, if_false, long]
  exact read

theorem seconds?_civil : moment.civil.seconds? = some moment.seconds := by
  have year : (moment.civil.year : Int) = moment.instant.date.year :=
    Int.toNat_of_nonneg moment.year_bounds.1
  have same : moment.civil.date = moment.instant.date := by
    simp only [CivilTime.date, year]
    rfl
  have valid : moment.civil.date.isValid = true := by
    rw [same]
    exact Date.isValid_ofDays _
  have whole := moment.instant.secondsOf_date
  rw [← same] at whole
  exact (PathReader.seconds?_of_isValid valid).trans (congrArg some whole)

theorem writes : Writes (depth + 1) moment.encode moment.node := by
  refine writes_primitive (by decide) rfl rfl ?_
  have given : (do
      let time ← timeOf Tag.generalizedTime moment.text
      return Content.generalizedTime time) = .ok (.generalizedTime moment.civil) := by
    rw [moment.timeOf_text]
    rfl
  exact given

theorem fits_encode : Fits moment.encode := by
  have length : moment.encode.length = 17 := rfl
  unfold Fits
  omega

theorem readNode_encode (rest : Bytes) :
    readNode (moment.encode ++ rest) = .ok (moment.node, rest) := by
  refine Asn1.readNode_encode (by decide) moment.writes moment.fits_encode ?_ rest
  have last : moment.text.getLast? = some 90 := by
    simp [text, clock]
  simp [checkDistinguished, headerOf, last, TagClass.ofOctet, Tag.boolean, Tag.bitString,
    Tag.integer]

/-! ## Two digits for the year -/

/-- The second lies in the years from 1950 to 2049, of which two digits are written. -/
def HasShortYear : Prop := -631152000 ≤ moment.seconds ∧ moment.seconds ≤ 2524607999

def shortText : Bytes := decimalPair (moment.civil.year % 100) ++ moment.clock

def encodeShort : Bytes := Asn1.encode 0x17 moment.shortText

variable {moment}

theorem HasShortYear.year_bounds (recent : moment.HasShortYear) :
    1950 ≤ moment.civil.year ∧ moment.civil.year ≤ 2049 := by
  obtain ⟨low, high⟩ := recent
  have first : Date.toDays ⟨1950, 1, 1⟩ = -7305 := by decide
  have next : Date.toDays ⟨2049 + 1, 1, 1⟩ = 29220 := by decide
  have bounds : 1950 ≤ moment.instant.date.year ∧ moment.instant.date.year ≤ 2049 := by
    rw [Instant.date, Date.year_ofDays_bounds_iff, first, next]
    simp only [instant, Instant.ofSeconds]
    omega
  simp only [civil]
  omega

/-! ## Seconds off the front -/

variable (moment)

theorem readTime?_of_civil {bytes rest : Bytes}
    (read : readCivilTime? bytes = some (moment.civil, rest)) :
    readTime? bytes = some (moment.seconds, rest) := by
  simp [readTime?, read, moment.seconds?_civil]

theorem readCivilTime?_encode (rest : Bytes) :
    readCivilTime? (moment.encode ++ rest) = some (moment.civil, rest) := by
  have found : Strict.expect? Strict.generalizedTimeTag (moment.encode ++ rest) =
      some (moment.text, rest) :=
    Strict.expect?_eq_some.2 ⟨_, rfl, by decide, rfl⟩
  have read := PathReader.readCivilTime?_long found (spells_decimalPair moment.century_lt)
    (spells_decimalPair (Nat.mod_lt moment.civil.year (by decide : 0 < 100))) moment.spellsClock
  rw [moment.century_add] at read
  exact read

theorem readCivilTime?_encodeShort (recent : moment.HasShortYear) (rest : Bytes) :
    readCivilTime? (moment.encodeShort ++ rest) = some (moment.civil, rest) := by
  have found : Strict.expect? Strict.utcTimeTag (moment.encodeShort ++ rest) =
      some (moment.shortText, rest) :=
    Strict.expect?_eq_some.2 ⟨_, rfl, by decide, rfl⟩
  obtain ⟨low, high⟩ := recent.year_bounds
  have year : (if 50 ≤ moment.civil.year % 100 then moment.civil.year % 100 + 1900
      else moment.civil.year % 100 + 2000) = moment.civil.year := by
    split <;> omega
  have read := PathReader.readCivilTime?_short found
    (spells_decimalPair (Nat.mod_lt moment.civil.year (by decide : 0 < 100))) moment.spellsClock
  rw [year] at read
  exact read

end Moment

end CertScope.Asn1
