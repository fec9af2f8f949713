import OpenLawsVpn.Text

/-!
# The profile

Both phases read the profile anew, without the lines of the directives that the
core does not know (`readAndFilterConfig`). A line is left out if the name of such
a directive occurs anywhere in it, so the filter is the one by directives exactly
if no line mentions one of them elsewhere (`readAndFilterConfig_iff`).

* `readAndFilterConfig`: the text of the profile that is handed to the core, or the exception for
  a file that cannot be opened;
* `readAndFilterConfig_iff`: the lines kept are those of other directives, exactly if no line
  mentions a directive of AWS but as its own;
* `readAndFilterConfig_of_remote`: a line `remote` is dropped for the name of its host.
-/

namespace OpenLawsVpn

/-- The lines `std::getline` reads: up to each line end, and what is left after
    the last one, unless it is empty. -/
def getlines (s : Bytes) : List Bytes :=
  let lines := s.splitOn 10
  if lines.getLast? = some [] then lines.dropLast else lines

/-- A line without the carriage return at its end. -/
def stripCR (line : Bytes) : Bytes := if line.getLast? = some 13 then line.dropLast else line

/-- A line that is left out. -/
def isFiltered (line : Bytes) : Bool :=
  lit "auth-federate" <:+: line ∨ lit "auth-retry" <:+: line ∨ lit "resolv-retry" <:+: line

/-- `read_and_filter_config`, with the content of the file, if it can be opened. -/
def readAndFilterConfig (path : Bytes) (file : Option Bytes) : Except Bytes Bytes :=
  match file with
  | none => .error (lit "Cannot open config file: " ++ path)
  | some content =>
    .ok ((((getlines content).map stripCR).filter (!isFiltered ·)).flatMap (· ++ lit "\n"))

/-! ## Lines -/

/-- The parts of a list that is split do not have what it is split at. -/
theorem notMem_of_mem_splitOn {α : Type*} [BEq α] [LawfulBEq α] {x : α} {l : List α} :
    ∀ part ∈ l.splitOn x, x ∉ part := by
  induction l with
  | nil => simp
  | cons y l ih =>
    rw [List.splitOn_cons_eq_if_modifyHead]
    split_ifs with hy
    · simpa using ih
    · have hne : x ≠ y := fun h => hy (by simp [h])
      cases hparts : l.splitOn x with
      | nil => simp
      | cons part parts => simpa [hparts, hne] using ih

/-- A line has no line end in it. -/
theorem notMem_of_mem_getlines {s line : Bytes} (h : line ∈ getlines s) : 10 ∉ line := by
  rw [getlines] at h
  split_ifs at h
  · exact notMem_of_mem_splitOn _ (List.dropLast_subset _ h)
  · exact notMem_of_mem_splitOn _ h

theorem notMem_stripCR {line : Bytes} (h : 10 ∉ line) : 10 ∉ stripCR line := by
  rw [stripCR]
  split_ifs
  · exact fun hmem => h (List.dropLast_subset _ hmem)
  · exact h

/-- Lines, each with its end, are read again. -/
theorem getlines_flatMap {lines : List Bytes} (h : ∀ line ∈ lines, 10 ∉ line) :
    getlines (lines.flatMap (· ++ lit "\n")) = lines := by
  have hsplit : (lines.flatMap (· ++ lit "\n")).splitOn 10 = lines ++ [[]] := by
    induction lines with
    | nil => rfl
    | cons line lines ih =>
      rw [List.flatMap_cons, List.append_assoc, show lit "\n" = [10] from rfl, List.singleton_append,
        List.splitOn_append_cons_self_of_not_mem (h line List.mem_cons_self), List.cons_append,
        ← ih fun l hl => h l (List.mem_cons_of_mem _ hl)]
      rfl
  simp [getlines, hsplit]

/-! ## Directives -/

/-- The blanks between the words of a line. -/
def isBlank (b : UInt8) : Bool := b = 32 ∨ b = 9

/-- The directive of a line: its first word. -/
def directive (line : Bytes) : Bytes := (line.dropWhile isBlank).takeWhile (!isBlank ·)

/-- The directives of AWS. -/
def awsDirectives : List Bytes := [lit "auth-federate", lit "auth-retry", lit "resolv-retry"]

/-- A line is left out exactly if it has the name of an AWS directive somewhere in it. -/
theorem isFiltered_iff {line : Bytes} :
    isFiltered line = true ↔ ∃ name ∈ awsDirectives, name <:+: line := by
  simp [isFiltered, awsDirectives]

/-- The directive of a line is a part of it. -/
theorem directive_infix (line : Bytes) : directive line <:+: line :=
  (List.takeWhile_prefix _).isInfix.trans (List.dropWhile_suffix _).isInfix

/-- Filtering by a weaker condition is the same exactly if that is met by the
    same elements. -/
theorem filter_eq_filter_iff {α : Type*} {p q : α → Bool} {l : List α} (h : ∀ a ∈ l, p a → q a) :
    l.filter p = l.filter q ↔ ∀ a ∈ l, q a → p a := by
  constructor
  · intro heq a ha hq
    exact (List.mem_filter.1 (heq ▸ List.mem_filter.2 ⟨ha, hq⟩)).2
  · intro h'
    exact List.filter_congr fun a ha => Bool.eq_iff_iff.2 ⟨h a ha, h' a ha⟩

/-- The lines that are left are those of other directives, exactly if no line
    mentions the name of a directive of AWS but as its own. -/
theorem readAndFilterConfig_iff (path content : Bytes) :
    let lines := (getlines content).map stripCR
    ∃ result, readAndFilterConfig path (some content) = .ok result ∧
      (getlines result = lines.filter (fun line => decide (directive line ∉ awsDirectives)) ↔
        ∀ line ∈ lines, ∀ name ∈ awsDirectives, name <:+: line → directive line ∈ awsDirectives) := by
  intro lines
  refine ⟨_, rfl, ?_⟩
  have hlines : ∀ line ∈ lines.filter (!isFiltered ·), 10 ∉ line := by
    intro line hline
    obtain ⟨line', hline', rfl⟩ := List.mem_map.1 (List.mem_of_mem_filter hline)
    exact notMem_stripCR (notMem_of_mem_getlines hline')
  rw [getlines_flatMap hlines, filter_eq_filter_iff]
  · refine forall₂_congr fun line _ => ?_
    rw [decide_eq_true_iff, Bool.not_eq_true', ← Bool.not_eq_true, not_imp_not, isFiltered_iff]
    constructor
    · intro h name hname hinfix
      exact h ⟨name, hname, hinfix⟩
    · rintro h ⟨name, hname, hinfix⟩
      exact h name hname hinfix
  · -- The directive is a part of its line.
    intro line _ hline
    rw [decide_eq_true_iff]
    intro hmem
    have hfiltered := isFiltered_iff.2 ⟨_, hmem, directive_infix line⟩
    rw [hfiltered] at hline
    exact Bool.false_ne_true hline

-- A directive is left out, also on a last line without an end.
example : readAndFilterConfig (lit "p") (some (lit "dev tun\r\nauth-federate\nproto udp")) =
    .ok (lit "dev tun\nproto udp\n") := by
  decide

/-- The server of a profile is left out, for its name. -/
theorem readAndFilterConfig_of_remote :
    let content := lit "client\nremote auth-retry.example.com 443\nauth-federate\n"
    readAndFilterConfig (lit "p") (some content) = .ok (lit "client\n") ∧
      ((getlines content).map stripCR).filter (fun line => decide (directive line ∉ awsDirectives)) =
        [lit "client", lit "remote auth-retry.example.com 443"] := by
  decide

end OpenLawsVpn
