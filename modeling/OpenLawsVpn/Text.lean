import Mathlib.Data.List.DropRight
import Mathlib.Data.List.TakeWhile
import OpenLawsVpn.Lib.Search

/-!
# Texts

The program passes `std::string`s around: byte strings, without any promise on
their encoding. A text of the model is a list of bytes (`Bytes`), and the
string operations of the source are operations on lists:

* `find`, with a start position, is `Search.findFrom`; `strstr` is an
  occurrence (`<:+:`), which is decidable;
* `substr` cuts a text at a position (`substr`), `c_str()` at its first NUL
  (`cStr`);
* `std::to_string` of an unsigned number is `decimal`.

Every line of log starts with a prefix naming the time (`getLogPrefix`), which
is read from the clock each time (`Stamp`).

* `cStr_eq_self`, `cStr_append`: a text without a NUL is its own C string;
* `isDigit_of_mem_decimal`, `mem_format`: the symbols that numbers and times are written with, by
  which later modules know that a log line has no phrase in its prefix.
-/

namespace OpenLawsVpn

/-- A `std::string`. -/
abbrev Bytes := List UInt8

/-- Whether all bytes of a text are of a kind is decided along the text. -/
instance (priority := high) decidableForallMem (p : UInt8 → Prop) [DecidablePred p] (s : Bytes) :
    Decidable (∀ b ∈ s, p b) :=
  List.decidableBAll p s

/-- The bytes of a literal, which has only ASCII characters. -/
def lit (s : String) : Bytes := s.toList.map Char.toUInt8

/-- `std::string::npos`-free `substr`: `n` bytes from the position `pos` on. -/
def substr (s : Bytes) (pos n : ℕ) : Bytes := (s.drop pos).take n

/-- What a C function sees of a string: the bytes before the first NUL. -/
def cStr (s : Bytes) : Bytes := s.takeWhile (· ≠ 0)

/-- A text without a NUL is the C string it is handed over as. -/
theorem cStr_eq_self {s : Bytes} (h : 0 ∉ s) : cStr s = s := by
  rw [cStr, List.takeWhile_eq_self_iff]
  intro b hb
  simpa using ne_of_mem_of_not_mem hb h

theorem nul_notMem_cStr (s : Bytes) : 0 ∉ cStr s := fun h => by
  simpa using List.mem_takeWhile_imp h

/-- A C string goes on after a part that has no NUL. -/
theorem cStr_append {s : Bytes} (h : 0 ∉ s) (t : Bytes) : cStr (s ++ t) = s ++ cStr t := by
  rw [cStr, List.takeWhile_append_of_pos, cStr]
  intro b hb
  simpa using ne_of_mem_of_not_mem hb h

/-- A text handed over as a C string, which has no NUL. -/
structure CString where
  bytes : Bytes
  nul_notMem : 0 ∉ bytes
  deriving DecidableEq, Repr

/-- The empty C string. -/
def CString.empty : CString := ⟨[], List.not_mem_nil⟩

/-- Removing the line ends at the end of a text, as the loggers do. -/
def stripNewlines (s : Bytes) : Bytes := s.rdropWhile (fun b => b = 10 ∨ b = 13)

/-! ## Numbers -/

/-- The decimal digits of a number, as `std::to_string` writes them. -/
def decimal (n : ℕ) : Bytes := (Nat.toDigits 10 n).map Char.toUInt8

/-- A digit, as a byte. -/
def isDigit (b : UInt8) : Bool := 48 ≤ b && b ≤ 57

/-- A number is written with digits only. -/
theorem isDigit_of_mem_decimal {n : ℕ} {b : UInt8} (hb : b ∈ decimal n) : isDigit b := by
  obtain ⟨c, hc, rfl⟩ := List.mem_map.1 hb
  have hd := Nat.isDigit_of_mem_toDigits (by decide) (by decide) hc
  simp only [Char.isDigit, Bool.and_eq_true, decide_eq_true_eq] at hd
  have h1 : 48 ≤ c.val.toNat := hd.1
  have h2 : c.val.toNat ≤ 57 := hd.2
  have hn : c.toUInt8.toNat = c.val.toNat := by
    simp only [Char.toUInt8, UInt32.toNat_toUInt8]
    omega
  simp only [isDigit, Bool.and_eq_true, decide_eq_true_eq, UInt8.le_iff_toNat_le, hn]
  exact ⟨h1, h2⟩

/-! ## The log prefix -/

/-- A reading of the clock, broken down to local time. -/
structure Stamp where
  year : ℕ
  month : ℕ
  day : ℕ
  hour : ℕ
  minute : ℕ
  second : ℕ
  deriving DecidableEq, Repr

/-- A number in at least two digits, as `strftime` writes it. -/
def twoDigits (n : ℕ) : Bytes := if n < 10 then lit "0" ++ decimal n else decimal n

/-- The time in the format `%Y-%m-%d %H:%M:%S`. -/
def Stamp.format (t : Stamp) : Bytes :=
  decimal t.year ++ lit "-" ++ twoDigits t.month ++ lit "-" ++ twoDigits t.day ++ lit " " ++
    twoDigits t.hour ++ lit ":" ++ twoDigits t.minute ++ lit ":" ++ twoDigits t.second

/-- `get_log_prefix`: the start of every log line. -/
def getLogPrefix (t : Stamp) : Bytes := lit "[openlawsvpn " ++ t.format ++ lit "]"

theorem isDigit_of_mem_twoDigits {n : ℕ} {b : UInt8} (hb : b ∈ twoDigits n) : isDigit b := by
  rw [twoDigits] at hb
  split_ifs at hb
  · rcases List.mem_append.1 hb with hb | hb
    · rw [show b = '0'.toUInt8 by simpa [lit] using hb]
      rfl
    · exact isDigit_of_mem_decimal hb
  · exact isDigit_of_mem_decimal hb

/-- A time is written in digits, dashes, colons and one blank. -/
theorem mem_format {t : Stamp} {b : UInt8} (hb : b ∈ t.format) :
    isDigit b ∨ b ∈ lit "-: " := by
  simp only [Stamp.format, List.mem_append] at hb
  rcases hb with (((((((((hb | hb) | hb) | hb) | hb) | hb) | hb) | hb) | hb) | hb) | hb
  all_goals first
    | exact .inl (isDigit_of_mem_decimal hb)
    | exact .inl (isDigit_of_mem_twoDigits hb)
    | exact .inr (by revert hb; simp only [lit]; intro hb; simp_all)

end OpenLawsVpn
