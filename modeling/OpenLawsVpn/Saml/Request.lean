import OpenLawsVpn.Lib.Segmented
import OpenLawsVpn.Saml.Token

/-!
# The HTTP request

How the capture server of the CLI reads a request (`readRequest`): up to the
blank line, which may buffer a part of the body, then the header lines for the
content length, then the rest of the body.

The body handed on is the `n` bytes after the blank line, whatever the
segmentation, only under a condition on the header and on the segments
(`readRequest_iff`): the content length has to be spelled `Content-Length: `, or
else it is not seen, and the segment with the blank line must not bring more
than the body, or else the unsigned count of the bytes left wraps around.

* `HeaderBlock`: a request line and header fields with one content length, spelled somehow, as
  a structure that can only be a well-formed head;
* `readHeaders_render`: the content length read off it;
* `readUntil_render`: the head is read up to its blank line, for all segmentations;
* `readRequest_iff`: the criterion for the body to be handed on whole;
* `readRequest_lowerCase`: a request whose body is lost.
-/

namespace OpenLawsVpn

/-- The exceptions of `SAMLServer::run` while reading. -/
inductive RequestError
  /-- `std::invalid_argument`, of a content length without digits. -/
  | invalidArgument
  /-- `std::out_of_range`, of a content length beyond `unsigned long`. -/
  | outOfRange
  /-- `std::length_error`, of a buffer beyond `std::vector::max_size`. -/
  | lengthError
  /-- The stream ends too early. -/
  | eof
  deriving DecidableEq, Repr

/-- The values of `size_t` and `unsigned long`. -/
def sizeTValues : ℕ := 2 ^ 64

/-- `std::vector<char>::max_size`. -/
def vectorMaxSize : ℕ := 2 ^ 63 - 1

/-- The value of decimal digits. -/
def decimalValue (digits : Bytes) : ℕ := digits.foldl (fun n b => 10 * n + (b.toNat - 48)) 0

/-- `std::stoul`: white space, a sign, and the digits up to the first other byte;
    a negative number wraps around. -/
def stoul (s : Bytes) : Except RequestError ℕ :=
  let s := s.dropWhile isSpace
  let negative := s.head? = some 45
  let s := if negative ∨ s.head? = some 43 then s.tail else s
  let digits := s.takeWhile isDigit
  let value := decimalValue digits
  if digits = [] then .error .invalidArgument
  else if sizeTValues ≤ value then .error .outOfRange
  else .ok (if negative then (sizeTValues - value) % sizeTValues else value)

/-- The content length after a header line. -/
def headerLine (line : Bytes) (contentLength : ℕ) : Except RequestError ℕ :=
  if substr line 0 16 = lit "Content-Length: " then stoul (line.drop 16) else .ok contentLength

/-- The loop over the header lines (`std::getline`), with the part `line` of a
    line read so far: the content length, and the buffer after the blank line. -/
def readHeaders (line : Bytes) (contentLength : ℕ) : Bytes → Except RequestError (ℕ × Bytes)
  | [] =>
    -- The buffer ends: a last line without an end is a line, unless it is empty.
    if line = [] ∨ line = [13] then .ok (contentLength, [])
    else (headerLine line contentLength).map (·, [])
  | b :: rest =>
    if b = 10 then
      if line = [13] then .ok (contentLength, rest)
      else
        match headerLine line contentLength with
        | .error e => .error e
        | .ok contentLength => readHeaders [] contentLength rest
    else readHeaders (line ++ [b]) contentLength rest

/-- A subtraction of `size_t`s. -/
def subSizeT (a b : ℕ) : ℕ := (((a : ℤ) - b) % sizeTValues).toNat

/-- The body: the part of it in the buffer, and what is left of the content
    length from the segments to come; without a content length, the former only. -/
def readBody (contentLength : ℕ) (buffered : Bytes) (segments : List Bytes) :
    Except RequestError Bytes :=
  if 0 < contentLength then
    let remaining := if 0 < buffered.length then subSizeT contentLength buffered.length
      else contentLength
    if 0 < remaining then
      if vectorMaxSize < remaining then .error .lengthError
      else match Segmented.readExactly remaining segments with
        | none => .error .eof
        | some more => .ok (buffered ++ more)
    else .ok buffered
  else .ok buffered

/-- The reading part of `SAMLServer::run`, with the segments in which the stream
    arrives. -/
def readRequest (segments : List Bytes) : Except RequestError Bytes :=
  match Segmented.readUntil (lit "\r\n\r\n") [] segments with
  | none => .error .eof
  | some (sb, segments) =>
    match readHeaders [] 0 sb with
    | .error e => .error e
    | .ok (contentLength, buffered) => readBody contentLength buffered segments

/-- Reading the body, the bytes in the buffer are no more than the content length
    they are subtracted from. -/
def NoUnderflow (segments : List Bytes) : Prop :=
  ∀ sb segments' contentLength buffered,
    Segmented.readUntil (lit "\r\n\r\n") [] segments = some (sb, segments') →
    readHeaders [] 0 sb = .ok (contentLength, buffered) →
    0 < contentLength → buffered.length ≤ contentLength

/-! ## Header blocks -/

/-- A letter in lower case. -/
def asciiLower (b : UInt8) : UInt8 := if 65 ≤ b ∧ b ≤ 90 then b + 32 else b

/-- A header line of the content length, in any letter case. -/
def isContentLength (line : Bytes) : Bool :=
  (line.takeWhile (· ≠ 58)).map asciiLower = lit "content-length"

/-- A header block with one content length: the lines before (the request line
    and header fields) and after it, its name in any letter case, and its value
    with blanks around it. -/
structure HeaderBlock where
  before : List Bytes
  name : Bytes
  blanks : Bytes
  digits : Bytes
  trailing : Bytes
  after : List Bytes
  name_eq : name.map asciiLower = lit "content-length"
  blanks_eq : ∀ b ∈ blanks, b = 32 ∨ b = 9
  digits_eq : ∀ b ∈ digits, isDigit b
  digits_ne : digits ≠ []
  trailing_eq : ∀ b ∈ trailing, b = 32 ∨ b = 9
  line_ne : ∀ l ∈ before ++ after, l ≠ [] ∧ 13 ∉ l ∧ 10 ∉ l ∧ isContentLength l = false

namespace HeaderBlock

variable (h : HeaderBlock)

/-- The line of the content length. -/
def field : Bytes := h.name ++ 58 :: (h.blanks ++ (h.digits ++ h.trailing))

/-- The content length. -/
def length : ℕ := decimalValue h.digits

/-- The lines, without their ends. -/
def lines : List Bytes := h.before ++ h.field :: h.after

/-- The block as it is sent, with the blank line. -/
def render : Bytes := h.lines.flatMap (· ++ [13, 10]) ++ [13, 10]

/-- The content length is spelled as the code looks for it: `Content-Length`, a
    colon and a blank. -/
def Recognised : Prop := h.name = lit "Content-Length" ∧ h.blanks.head? = some 32

instance : Decidable h.Recognised := inferInstanceAs (Decidable (_ ∧ _))

/-! ### Lines -/

/-- The name of the content length has no line end and no colon. -/
theorem name_ne : 13 ∉ h.name ∧ 10 ∉ h.name ∧ 58 ∉ h.name := by
  have hlower : ∀ b ∈ h.name, asciiLower b ∈ lit "content-length" := fun b hb =>
    h.name_eq ▸ List.mem_map_of_mem hb
  refine ⟨fun hb => ?_, fun hb => ?_, fun hb => ?_⟩ <;>
    exact absurd (hlower _ hb) (by decide)

/-- Its value, with the blanks around it, has no line end. -/
theorem value_ne {c : UInt8} (hc : c = 13 ∨ c = 10) : c ∉ h.blanks ++ (h.digits ++ h.trailing) := by
  simp only [List.mem_append, not_or]
  refine ⟨fun hb => ?_, fun hb => ?_, fun hb => ?_⟩
  · rcases h.blanks_eq c hb with rfl | rfl <;> revert hc <;> decide
  · have := h.digits_eq c hb
    rcases hc with rfl | rfl <;> revert this <;> decide
  · rcases h.trailing_eq c hb with rfl | rfl <;> revert hc <;> decide

theorem field_ne : h.field ≠ [] ∧ 13 ∉ h.field ∧ 10 ∉ h.field := by
  obtain ⟨h13, h10, -⟩ := h.name_ne
  refine ⟨by simp [field], ?_, ?_⟩ <;>
    simp only [field, List.mem_append, List.mem_cons, not_or]
  · exact ⟨h13, by decide, by simpa [not_or] using h.value_ne (.inl rfl)⟩
  · exact ⟨h10, by decide, by simpa [not_or] using h.value_ne (.inr rfl)⟩

/-- No line is empty, or has a line end in it. -/
theorem lines_ne {l : Bytes} (hl : l ∈ h.lines) : l ≠ [] ∧ 13 ∉ l ∧ 10 ∉ l := by
  simp only [lines, List.mem_append, List.mem_cons] at hl
  rcases hl with hl | rfl | hl
  · obtain ⟨h₁, h₂, h₃, -⟩ := h.line_ne l (List.mem_append_left _ hl)
    exact ⟨h₁, h₂, h₃⟩
  · exact h.field_ne
  · obtain ⟨h₁, h₂, h₃, -⟩ := h.line_ne l (List.mem_append_right _ hl)
    exact ⟨h₁, h₂, h₃⟩

/-- Lines that are not empty do not have a blank line between them. -/
theorem not_infix_lines {ls : List Bytes} (hls : ∀ l ∈ ls, l ≠ [] ∧ 13 ∉ l ∧ 10 ∉ l) :
    ¬lit "\r\n\r\n" <:+: ls.flatMap (· ++ [13, 10]) := by
  induction ls with
  | nil => decide
  | cons l ls ih =>
    obtain ⟨-, h13, -⟩ := hls l List.mem_cons_self
    have hls' := fun l hl => hls l (List.mem_cons_of_mem _ hl)
    rw [List.flatMap_cons, List.append_assoc, show lit "\r\n\r\n" = 13 :: [10, 13, 10] from rfl,
      Search.infix_append_left_iff h13, List.cons_append, List.infix_cons_iff]
    rintro (hpre | hinf)
    · -- The next line would start with a line end.
      cases ls with
      | nil => exact absurd hpre (by decide)
      | cons l' ls =>
        obtain ⟨hne, h13', -⟩ := hls' l' List.mem_cons_self
        obtain ⟨b, l', rfl⟩ := List.exists_cons_of_ne_nil hne
        simp only [List.flatMap_cons, List.cons_append, List.nil_append, List.cons_prefix_cons] at hpre
        exact h13' (hpre.2.2.1 ▸ List.mem_cons_self)
    · rw [List.cons_append, List.infix_cons_iff] at hinf
      rcases hinf with hpre | hinf
      · exact absurd (List.cons_prefix_cons.1 hpre).1 (by decide)
      · exact ih hls' hinf

/-- A block has a blank line. -/
theorem delim_infix_render : lit "\r\n\r\n" <:+: h.render := by
  rw [render, lines]
  rcases List.eq_nil_or_concat h.after with ha | ⟨ls, l, ha⟩
  · rw [ha]
    refine ⟨h.before.flatMap (· ++ [13, 10]) ++ h.field, [], ?_⟩
    simp [show lit "\r\n\r\n" = [13, 10, 13, 10] from rfl]
  · rw [ha]
    refine ⟨h.before.flatMap (· ++ [13, 10]) ++ h.field ++ [13, 10] ++
      ls.flatMap (· ++ [13, 10]) ++ l, [], ?_⟩
    simp [show lit "\r\n\r\n" = [13, 10, 13, 10] from rfl]

theorem not_infix_dropLast_render : ¬lit "\r\n\r\n" <:+: h.render.dropLast := by
  have hdrop : h.render.dropLast = h.lines.flatMap (· ++ [13, 10]) ++ [13] := by
    rw [render, List.dropLast_append_of_ne_nil (by simp)]
    rfl
  rw [hdrop, show lit "\r\n\r\n" = [13, 10, 13] ++ [10] from rfl,
    Search.infix_append_right_iff (by decide)]
  exact not_infix_lines fun l hl => h.lines_ne hl

/-! ### Reading the lines -/

/-- Bytes before a line end are added to the line read so far. -/
theorem readHeaders_append {l : Bytes} (hl : 10 ∉ l) (line : Bytes) (n : ℕ) (r : Bytes) :
    readHeaders line n (l ++ r) = readHeaders (line ++ l) n r := by
  induction l generalizing line with
  | nil => simp
  | cons b l ih =>
    simp only [List.mem_cons, not_or] at hl
    rw [List.cons_append, readHeaders, if_neg (Ne.symm hl.1), ih hl.2]
    simp

/-- A line that is not blank is looked at, and the next one is read. -/
theorem readHeaders_line {l : Bytes} (hne : l ≠ []) (hl : 10 ∉ l) (n : ℕ) (r : Bytes) :
    readHeaders [] n (l ++ [13, 10] ++ r) =
      match headerLine (l ++ [13]) n with
      | .error e => .error e
      | .ok n => readHeaders [] n r := by
  have h13 : l ++ [13] ≠ [13] := by simpa using hne
  rw [show l ++ [13, 10] ++ r = (l ++ [13]) ++ 10 :: r by simp,
    readHeaders_append (by simp [hl]), List.nil_append, readHeaders, if_pos rfl, if_neg h13]

/-- The name of a field is what is before the first colon. -/
theorem takeWhile_of_not_mem {l : Bytes} (hl : 58 ∉ l) (r : Bytes) :
    (l ++ 58 :: r).takeWhile (· ≠ 58) = l := by
  rw [List.takeWhile_append_of_pos fun b hb => by simpa using ne_of_mem_of_not_mem hb hl]
  simp

/-- A line starts with the name the code looks for. -/
theorem substr_name_iff {line : Bytes} :
    substr line 0 16 = lit "Content-Length: " ↔
      ∃ r, line = lit "Content-Length" ++ 58 :: 32 :: r := by
  refine ⟨fun h => ⟨line.drop 16, ?_⟩, ?_⟩
  · conv_lhs => rw [← List.take_append_drop 16 line]
    rw [show line.take 16 = _ from h]
    rfl
  · rintro ⟨r, rfl⟩
    rfl

/-- The lines of other fields have no effect. -/
theorem headerLine_of_not {l : Bytes} (hl : isContentLength l = false) (n : ℕ) :
    headerLine (l ++ [13]) n = .ok n := by
  rw [headerLine, if_neg]
  rw [substr_name_iff]
  rintro ⟨r, hr⟩
  have hdrop := congrArg List.dropLast hr
  rw [List.dropLast_concat, List.dropLast_append_of_ne_nil (by simp), List.dropLast_cons_of_ne_nil
    (by simp)] at hdrop
  rw [hdrop, isContentLength, takeWhile_of_not_mem (by decide)] at hl
  exact absurd hl (by decide)

/-- Lines of other fields are skipped. -/
theorem readHeaders_lines {ls : List Bytes}
    (hls : ∀ l ∈ ls, l ≠ [] ∧ 13 ∉ l ∧ 10 ∉ l ∧ isContentLength l = false) (n : ℕ) (r : Bytes) :
    readHeaders [] n (ls.flatMap (· ++ [13, 10]) ++ r) = readHeaders [] n r := by
  induction ls with
  | nil => simp
  | cons l ls ih =>
    obtain ⟨hne, -, h10, hl⟩ := hls l List.mem_cons_self
    rw [List.flatMap_cons, List.append_assoc, readHeaders_line hne h10, headerLine_of_not hl]
    exact ih fun l hl => hls l (List.mem_cons_of_mem _ hl)

/-- The line of the content length is seen exactly if it is spelled as the code looks for it. -/
theorem substr_field_iff :
    substr (h.field ++ [13]) 0 16 = lit "Content-Length: " ↔ h.Recognised := by
  have hname : 58 ∉ lit "Content-Length" := by decide
  rw [substr_name_iff, Recognised]
  constructor
  · rintro ⟨r, hr⟩
    rw [field, List.append_assoc, List.cons_append] at hr
    obtain ⟨hn, hv⟩ := Search.append_cons_inj h.name_ne.2.2 hname hr
    refine ⟨hn, ?_⟩
    cases hb : h.blanks with
    | nil =>
      -- The value is not a blank.
      obtain ⟨d, ds, hd⟩ := List.exists_cons_of_ne_nil h.digits_ne
      rw [hb, hd] at hv
      have hdigit := h.digits_eq d (hd ▸ List.mem_cons_self)
      rw [(List.cons.inj hv).1] at hdigit
      exact absurd hdigit (by decide)
    | cons b bs =>
      rw [hb] at hv
      rw [(List.cons.inj hv).1, List.head?_cons]
  · rintro ⟨hn, hb⟩
    obtain ⟨bs, hb⟩ : ∃ bs, h.blanks = 32 :: bs := by
      cases hbs : h.blanks with
      | nil => simp [hbs] at hb
      | cons b bs =>
        rw [hbs, List.head?_cons, Option.some.injEq] at hb
        exact ⟨bs, by rw [hb]⟩
    exact ⟨bs ++ (h.digits ++ h.trailing) ++ [13], by simp [field, hn, hb]⟩

/-- The value is read, if it is in the range. -/
theorem stoul_value {blanks : Bytes} (hblanks : ∀ b ∈ blanks, b = 32 ∨ b = 9) :
    stoul (blanks ++ (h.digits ++ (h.trailing ++ [13]))) =
      if h.length < sizeTValues then .ok h.length else .error .outOfRange := by
  have hspace : ∀ b ∈ blanks, isSpace b := fun b hb => by
    rcases hblanks b hb with rfl | rfl <;> decide
  -- The digits end before the blanks or the CR.
  have hstop : (h.trailing ++ [13]).takeWhile isDigit = [] := by
    cases ht : h.trailing with
    | nil => decide
    | cons b bs => rcases h.trailing_eq b (ht ▸ List.mem_cons_self) with rfl | rfl <;> rfl
  have hdigits : (h.digits ++ (h.trailing ++ [13])).takeWhile isDigit = h.digits := by
    rw [List.takeWhile_append_of_pos h.digits_eq, hstop, List.append_nil]
  obtain ⟨d, ds, hd⟩ := List.exists_cons_of_ne_nil h.digits_ne
  have hdigit : isDigit d := h.digits_eq d (hd ▸ List.mem_cons_self)
  have hne : ∀ b, isDigit b = false → d ≠ b := fun b hb hdb => by
    rw [hdb, hb] at hdigit
    exact Bool.false_ne_true hdigit
  -- A digit is no white space, and no sign.
  have hdrop : (blanks ++ (h.digits ++ (h.trailing ++ [13]))).dropWhile isSpace =
      h.digits ++ (h.trailing ++ [13]) := by
    have hd' : isSpace d = false := by
      simp only [isDigit, Bool.and_eq_true, decide_eq_true_eq] at hdigit
      simp only [isSpace, Bool.or_eq_false_iff, decide_eq_false_iff_not, Bool.and_eq_false_iff]
      refine ⟨hne 32 (by decide), .inr ?_⟩
      exact fun hle => absurd (UInt8.le_trans hdigit.1 hle) (by decide)
    rw [List.dropWhile_append_of_pos hspace, hd, List.cons_append, List.dropWhile_cons, hd']
    rfl
  have hhead : (h.digits ++ (h.trailing ++ [13])).head? = some d := by
    rw [hd]
    rfl
  simp only [stoul, hdrop, hhead, Option.some.injEq, hne 45 (by decide), hne 43 (by decide),
    or_self, if_false, hdigits, h.digits_ne, show decimalValue h.digits = h.length from rfl]
  by_cases hlen : h.length < sizeTValues
  · rw [if_pos hlen, if_neg (not_le.2 hlen)]
  · rw [if_neg hlen, if_pos (not_lt.1 hlen)]

/-- The line of the content length sets it, when it is spelled as the code looks
    for it. -/
theorem headerLine_field (n : ℕ) :
    headerLine (h.field ++ [13]) n =
      if h.Recognised then
        if h.length < sizeTValues then .ok h.length else .error .outOfRange
      else .ok n := by
  rw [headerLine]
  by_cases hr : h.Recognised
  · rw [if_pos hr, if_pos (h.substr_field_iff.2 hr)]
    obtain ⟨hn, hb⟩ := hr
    obtain ⟨bs, hb⟩ : ∃ bs, h.blanks = 32 :: bs := List.head?_eq_some_iff.1 hb
    have hdrop : (h.field ++ [13]).drop 16 = bs ++ (h.digits ++ (h.trailing ++ [13])) := by
      simp only [field, hn, hb, List.append_assoc, List.cons_append]
      rfl
    rw [hdrop, h.stoul_value fun b hbs => h.blanks_eq b (hb ▸ List.mem_cons_of_mem _ hbs)]
  · rw [if_neg hr, if_neg (mt h.substr_field_iff.1 hr)]

/-- What the code reads off the block: the content length, if it is spelled as
    the code looks for it. -/
theorem readHeaders_render (r : Bytes) :
    readHeaders [] 0 (h.render ++ r) =
      if h.Recognised then
        if h.length < sizeTValues then .ok (h.length, r) else .error .outOfRange
      else .ok (0, r) := by
  have hbefore := readHeaders_lines (fun l hl => h.line_ne l (List.mem_append_left _ hl)) 0
  have hafter : ∀ n, readHeaders [] n (h.after.flatMap (· ++ [13, 10]) ++ ([13, 10] ++ r)) =
      .ok (n, r) := fun n => by
    rw [readHeaders_lines fun l hl => h.line_ne l (List.mem_append_right _ hl)]
    rfl
  rw [render, lines, List.flatMap_append, List.flatMap_cons, List.append_assoc, List.append_assoc,
    hbefore, List.append_assoc, readHeaders_line h.field_ne.1 h.field_ne.2.2, headerLine_field]
  split_ifs with hr hlen
  · exact hafter h.length
  · rfl
  · exact hafter 0

end HeaderBlock

/-! ## The body -/

/-- Without a content length, the buffer is the body. -/
theorem readBody_zero (buffered : Bytes) (segments : List Bytes) :
    readBody 0 buffered segments = .ok buffered := rfl

/-- A subtraction of no more than there is does not wrap around. -/
theorem subSizeT_of_le {a b : ℕ} (hba : b ≤ a) (ha : a < sizeTValues) : subSizeT a b = a - b := by
  rw [subSizeT, Int.emod_eq_of_lt (by omega) (by omega)]
  omega

/-- With no more than the body in the buffer, and all of it in the stream, the
    body is read up to the content length, if a vector can hold what is left. -/
theorem readBody_of_le {n : ℕ} {buffered : Bytes} {segments : List Bytes} (hn : n < sizeTValues)
    (hle : buffered.length ≤ n) (hlen : n ≤ buffered.length + segments.flatten.length) :
    readBody n buffered segments =
      if n - buffered.length ≤ vectorMaxSize then
        .ok (buffered ++ segments.flatten.take (n - buffered.length))
      else .error .lengthError := by
  have hremaining : (if 0 < buffered.length then subSizeT n buffered.length else n) =
      n - buffered.length := by
    split_ifs with hb
    · exact subSizeT_of_le hle hn
    · omega
  have hread : Segmented.readExactly (n - buffered.length) segments =
      some (segments.flatten.take (n - buffered.length)) := by
    rw [Segmented.readExactly, if_pos (by omega)]
  simp only [readBody, hremaining, hread]
  rcases Nat.eq_zero_or_pos n with rfl | h0
  · simp
  rcases Nat.eq_zero_or_pos (n - buffered.length) with hr | hr
  · simp [hr]
  · rw [if_pos h0, if_pos hr]
    split_ifs <;> first | rfl | omega

variable {h : HeaderBlock} {rest : Bytes} {segments : List Bytes}

/-- The reading part on a request: the header is read off the block, and the
    buffer then holds what was read beyond it. -/
theorem readUntil_render (hseg : segments.flatten = h.render ++ rest) :
    ∃ segments', Segmented.readUntil (lit "\r\n\r\n") [] segments =
        some (h.render ++ rest.take (Segmented.overread h.render.length segments), segments') ∧
      segments'.flatten = rest.drop (Segmented.overread h.render.length segments) ∧
      Segmented.overread h.render.length segments ≤ rest.length :=
  Segmented.readUntil_eq h.delim_infix_render h.not_infix_dropLast_render
    (by simp [HeaderBlock.render]) hseg

/-- What the counts are subtracted from is read off the header. -/
theorem noUnderflow_iff {sb : Bytes} {segments' : List Bytes}
    (hread : Segmented.readUntil (lit "\r\n\r\n") [] segments = some (sb, segments')) :
    NoUnderflow segments ↔ ∀ n buffered, readHeaders [] 0 sb = .ok (n, buffered) →
      0 < n → buffered.length ≤ n := by
  constructor
  · intro hno n buffered
    exact hno _ _ n buffered hread
  · intro hno sb' segments'' n buffered hread'
    rw [hread, Option.some.injEq, Prod.mk.injEq] at hread'
    exact hread'.1 ▸ hno n buffered

/-- With `k` bytes of the stream in the buffer, the body is read whole exactly if these are no
    more than the content length, and a vector can hold what is left. -/
theorem readBody_take_iff {n k : ℕ} {segments' : List Bytes} (hn : n < sizeTValues)
    (hlen : n ≤ rest.length) (hk : k ≤ rest.length) (hleft : segments'.flatten = rest.drop k) :
    (readBody n (rest.take k) segments' = .ok (rest.take n) ∧ (0 < n → k ≤ n)) ↔
      k ≤ n ∧ n - k ≤ vectorMaxSize := by
  have htake : (rest.take k).length = k := List.length_take_of_le hk
  have hbody : k ≤ n → readBody n (rest.take k) segments' =
      if n - k ≤ vectorMaxSize then .ok (rest.take n) else .error .lengthError := fun hkn => by
    rw [readBody_of_le hn (by omega) (by rw [hleft, htake, List.length_drop]; omega), htake, hleft,
      ← List.take_add, Nat.add_sub_cancel' hkn]
  constructor
  · rintro ⟨hresult, hno⟩
    have hkn : k ≤ n := by
      rcases Nat.eq_zero_or_pos n with rfl | h0
      · -- Without a body, the buffer is handed on.
        rw [readBody_zero, Except.ok.injEq, List.take_zero] at hresult
        rw [← htake, hresult]
        exact Nat.zero_le _
      · exact hno h0
    refine ⟨hkn, ?_⟩
    by_contra hmax
    rw [hbody hkn, if_neg hmax] at hresult
    cases hresult
  · rintro ⟨hkn, hmax⟩
    exact ⟨(hbody hkn).trans (if_pos hmax), fun _ => hkn⟩

/-- The body of a request with one content length is read whole, and nothing but
    it, exactly if the content length is spelled as the code looks for it, is in
    the range, and the segment with the blank line brings no more than the body;
    or if it is not, and the segment ends with the body. -/
theorem readRequest_iff (h : HeaderBlock) (rest : Bytes) (segments : List Bytes)
    (hseg : segments.flatten = h.render ++ rest) (hlen : h.length ≤ rest.length) :
    (readRequest segments = .ok (rest.take h.length) ∧ NoUnderflow segments) ↔
      if h.Recognised then
        Segmented.overread h.render.length segments ≤ h.length ∧ h.length < sizeTValues ∧
          h.length - Segmented.overread h.render.length segments ≤ vectorMaxSize
      else Segmented.overread h.render.length segments = h.length := by
  obtain ⟨segments', hread, hleft, hk⟩ := readUntil_render hseg
  generalize Segmented.overread h.render.length segments = k at *
  have htake : (rest.take k).length = k := List.length_take_of_le hk
  have hheaders := h.readHeaders_render (rest.take k)
  rw [noUnderflow_iff hread, readRequest, hread]
  split_ifs at hheaders ⊢ with hr hsize
  · simp only [hheaders, Except.ok.injEq, Prod.mk.injEq, and_imp]
    have hbody := readBody_take_iff hsize hlen hk hleft
    constructor
    · rintro ⟨hresult, hno⟩
      obtain ⟨hkn, hmax⟩ := hbody.1 ⟨hresult, fun h0 => htake ▸ hno _ _ rfl rfl h0⟩
      exact ⟨hkn, hsize, hmax⟩
    · rintro ⟨hkn, -, hmax⟩
      refine ⟨(hbody.2 ⟨hkn, hmax⟩).1, ?_⟩
      rintro n buffered rfl rfl -
      exact htake.trans_le hkn
  · -- The content length is out of the range, and the reading throws.
    simp only [hheaders]
    constructor
    · rintro ⟨hresult, -⟩
      cases hresult
    · rintro ⟨-, hsize', -⟩
      exact absurd hsize' hsize
  · -- The content length is not seen, and the buffer is the body.
    simp only [hheaders, readBody_zero, Except.ok.injEq, Prod.mk.injEq, and_imp]
    constructor
    · rintro ⟨hresult, -⟩
      rw [← htake, hresult, List.length_take_of_le hlen]
    · rintro rfl
      refine ⟨rfl, ?_⟩
      rintro n buffered rfl -
      exact fun h0 => absurd h0 (lt_irrefl 0)

/-- A request in one segment, with the name of the content length in lower case. -/
def lowerCase : HeaderBlock where
  before := [lit "POST / HTTP/1.1"]
  name := lit "content-length"
  blanks := lit " "
  digits := lit "5"
  trailing := []
  after := []
  name_eq := by decide
  blanks_eq := by decide
  digits_eq := by decide
  digits_ne := by decide
  trailing_eq := by decide
  line_ne := by decide

theorem readRequest_iff_lowerCase :
    (readRequest [lowerCase.render, lit "token"] = .ok (lit "token") ∧
      NoUnderflow [lowerCase.render, lit "token"]) ↔
      Segmented.overread lowerCase.render.length [lowerCase.render, lit "token"] = 5 :=
  readRequest_iff lowerCase (lit "token") [lowerCase.render, lit "token"] (by decide) (by decide)

/-- With the name in lower case, and the body in a segment of its own, the body
    handed on is empty. -/
theorem readRequest_lowerCase :
    lowerCase.render = lit "POST / HTTP/1.1\r\ncontent-length: 5\r\n\r\n" ∧
      lowerCase.length = 5 ∧
      readRequest [lowerCase.render, lit "token"] ≠ .ok (lit "token") ∧
      readRequest [lowerCase.render, lit "token"] = .ok [] := by
  decide

-- With more than the body in the segment of the blank line, the count of the
-- bytes left wraps around, and no buffer can hold them.
example :
    readRequest [lit "POST / HTTP/1.1\r\nContent-Length: 5\r\n\r\ntoken\r\n"] =
      .error .lengthError := by
  decide

end OpenLawsVpn
