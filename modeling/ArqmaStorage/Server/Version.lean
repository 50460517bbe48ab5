import Mathlib.Data.List.Basic
import Mathlib.Data.Nat.Digits

/-!
# The latest-version check

`check_latest_version` reads the TXT records of `storage.version.arqma.com`, parses their text as
`major.minor.patch` and warns when the running version is older. `get_dns_record` appends, for each
answer, the character-string its first length byte delimits. `parse_version` splits the text at
every `.` (`boost::split`, empty pieces kept), requires three pieces and reads each with
`std::stoi`, which skips leading white space, takes an optional sign and the longest run of
digits, ignores what follows, and throws when there is no digit or the value leaves `int`.
`is_old_version` compares the fields one after the other.

`parse_version_fields`: every version in `int` range, printed in decimal with `.` between the
fields, parses back, also when text with no `.` that does not start with a digit follows a field
(`1.0.6-beta` is `1.0.6`). Hence `check_latest_version_warns_iff_outdated`: when the answers'
first character-strings spell a version, the check warns, naming it, exactly when the running
version is lexicographically older, and otherwise logs at debug level that it is the latest.
-/

namespace ArqmaStorage

/-! ## `std::stoi` -/

def INT_MIN : Int := -2147483648
def INT_MAX : Int := 2147483647

/-- `isspace` in the "C" locale: space, `\t`, `\n`, `\v`, `\f` and `\r`. -/
def is_space (c : Char) : Bool := c.toNat = 32 || (9 ≤ c.toNat && c.toNat ≤ 13)

/-- `isdigit`. -/
def is_digit (c : Char) : Bool := 48 ≤ c.toNat && c.toNat ≤ 57

/-- The value of a run of decimal digits. -/
def digits_value (ds : List Char) : Nat := ds.foldl (fun n d => 10 * n + (d.toNat - 48)) 0

/-- `strtol`'s optional sign: whether it is `-`, and what follows it. -/
def take_sign : List Char → Bool × List Char
  | c :: cs => if c = '-' then (true, cs) else if c = '+' then (false, cs) else (false, c :: cs)
  | [] => (false, [])

/-- What `std::stoi` throws. -/
inductive stoi_error where
  | invalid_argument
  | out_of_range
  deriving Repr, DecidableEq

/-- `std::stoi(str)` in base 10, through `strtol`: leading white space is skipped, an optional sign
and the longest run of digits are read, and the rest is ignored; no digit throws
`invalid_argument`, and a value outside `int` throws `out_of_range`. -/
def stoi (str : List Char) : Except stoi_error Int :=
  let signed := take_sign (str.dropWhile is_space)
  let digits := signed.2.takeWhile is_digit
  if digits = [] then .error .invalid_argument
  else
    let v : Int := if signed.1 then -(digits_value digits : Int) else digits_value digits
    if v < INT_MIN ∨ INT_MAX < v then .error .out_of_range else .ok v

section Stoi

variable {c : Char} {cs L s : List Char}

theorem digitChar_spec : ∀ k, k < 10 →
    is_digit (Nat.digitChar k) = true ∧ (Nat.digitChar k).toNat - 48 = k := by
  decide

theorem digits_value_snoc (c : Char) :
    digits_value (L ++ [c]) = 10 * digits_value L + (c.toNat - 48) := by
  simp [digits_value]

theorem toDigitsCore_spec : ∀ (fuel n : Nat) (ds : List Char), n < fuel →
    ∃ L, Nat.toDigitsCore 10 fuel n ds = L ++ ds ∧ L ≠ [] ∧ (∀ c ∈ L, is_digit c = true) ∧
      digits_value L = n
  | 0, n, ds, h => absurd h (Nat.not_lt_zero _)
  | fuel + 1, n, ds, h => by
    obtain ⟨hd, hv⟩ := digitChar_spec (n % 10) (Nat.mod_lt _ (by decide))
    rw [Nat.toDigitsCore]
    split_ifs with h0
    · exact ⟨[Nat.digitChar (n % 10)], rfl, List.cons_ne_nil _ _, by simpa using hd,
        by simp only [digits_value, List.foldl, hv]; omega⟩
    · obtain ⟨L, hL, -, hdig, hval⟩ :=
        toDigitsCore_spec fuel (n / 10) (Nat.digitChar (n % 10) :: ds) (by omega)
      refine ⟨L ++ [Nat.digitChar (n % 10)], by simp [hL], by simp, ?_, ?_⟩
      · simp only [List.mem_append, List.mem_singleton]
        rintro c (hc | rfl)
        exacts [hdig c hc, hd]
      · rw [digits_value_snoc, hval, hv]; omega

theorem toDigits_spec (n : Nat) : Nat.toDigits 10 n ≠ [] ∧
    (∀ c ∈ Nat.toDigits 10 n, is_digit c = true) ∧ digits_value (Nat.toDigits 10 n) = n := by
  obtain ⟨L, hL, h⟩ := toDigitsCore_spec (n + 1) n [] (Nat.lt_succ_self n)
  have e : Nat.toDigits 10 n = L := hL.trans (List.append_nil L)
  exact e ▸ h

theorem is_space_of_digit (hc : is_digit c = true) : is_space c = false := by
  simp only [is_digit, Bool.and_eq_true, decide_eq_true_eq] at hc
  rw [Bool.eq_false_iff]
  simp only [is_space, ne_eq, Bool.or_eq_true, Bool.and_eq_true, decide_eq_true_eq]
  omega

theorem take_sign_of_digit (hc : is_digit c = true) : take_sign (c :: cs) = (false, c :: cs) := by
  have hm : c ≠ '-' := by rintro rfl; exact absurd hc (by decide)
  have hp : c ≠ '+' := by rintro rfl; exact absurd hc (by decide)
  simp [take_sign, hm, hp]

theorem stoi_digits (hne : L ≠ []) (hd : ∀ c ∈ L, is_digit c = true)
    (hs : ∀ c ∈ s.head?, is_digit c = false) (neg : Bool) :
    stoi ((if neg then '-' :: (L ++ s) else L ++ s)) =
      let v : Int := if neg then -(digits_value L : Int) else digits_value L
      if v < INT_MIN ∨ INT_MAX < v then .error .out_of_range else .ok v := by
  obtain ⟨c, L', rfl⟩ := List.exists_cons_of_ne_nil hne
  have hc := hd c (List.mem_cons_self _ _)
  have hsign : take_sign ((if neg then '-' :: (c :: L' ++ s) else c :: L' ++ s).dropWhile is_space) =
      (neg, c :: L' ++ s) := by
    cases neg
    · rw [if_neg Bool.false_ne_true, List.cons_append,
        List.dropWhile_cons_of_neg (by simp [is_space_of_digit hc]), take_sign_of_digit hc]
    · rw [if_pos rfl, List.dropWhile_cons_of_neg (by decide)]
      rfl
  have htake : (c :: L' ++ s).takeWhile is_digit = c :: L' := by
    rw [List.takeWhile_append_of_pos hd]
    cases s with
    | nil => simp
    | cons x s => simp [List.takeWhile_cons_of_neg, hs x rfl]
  simp only [stoi, hsign, htake]
  rfl

theorem stoi_toString {n : Int} (hn : INT_MIN ≤ n ∧ n ≤ INT_MAX)
    (hs : ∀ c ∈ s.head?, is_digit c = false) : stoi ((toString n).toList ++ s) = .ok n := by
  cases n with
  | ofNat m =>
    obtain ⟨hne, hd, hv⟩ := toDigits_spec m
    have h := stoi_digits hne hd hs false
    simp only [hv, Bool.false_eq_true, reduceIte] at h
    rw [if_neg (by simp only [INT_MIN, INT_MAX, Int.ofNat_eq_coe] at hn ⊢; omega)] at h
    exact h
  | negSucc m =>
    obtain ⟨hne, hd, hv⟩ := toDigits_spec (m + 1)
    have h := stoi_digits hne hd hs true
    simp only [hv, reduceIte] at h
    rw [if_neg (by simp only [INT_MIN, INT_MAX, Int.negSucc_eq] at hn ⊢; omega)] at h
    exact h

end Stoi

/-! ## `parse_version` and `is_old_version` -/

/-- `version_t`. -/
structure version_t where
  major : Int
  minor : Int
  patch : Int
  deriving Repr, DecidableEq

/-- `parse_version(str, version_out)`: `none` where it returns `false`. -/
def parse_version (str : String) : Option version_t :=
  match str.toList.splitOnP (· == '.') with
  | [s₀, s₁, s₂] =>
    match stoi s₀, stoi s₁, stoi s₂ with
    | .ok major, .ok minor, .ok patch => some ⟨major, minor, patch⟩
    | _, _, _ => none
  | _ => none

/-- `is_old_version(latest)` of a server whose `VERSION_MAJOR`, `VERSION_MINOR` and
`VERSION_PATCH` are `current`'s fields. -/
def is_old_version (current latest : version_t) : Bool :=
  if current.major > latest.major then false
  else if current.major < latest.major then true
  else if current.minor > latest.minor then false
  else if current.minor < latest.minor then true
  else if current.patch ≥ latest.patch then false
  else true

/-- A version as it is published: its fields in decimal, with `.` between them. -/
def version_t.to_string (v : version_t) : String :=
  toString v.major ++ "." ++ toString v.minor ++ "." ++ toString v.patch

/-- Each field fits an `int`. -/
def version_t.fits (v : version_t) : Prop :=
  (INT_MIN ≤ v.major ∧ v.major ≤ INT_MAX) ∧ (INT_MIN ≤ v.minor ∧ v.minor ≤ INT_MAX) ∧
    INT_MIN ≤ v.patch ∧ v.patch ≤ INT_MAX

instance (v : version_t) : Decidable v.fits := inferInstanceAs (Decidable (_ ∧ _ ∧ _))

/-- Text `stoi` leaves unread after a field: no `.`, and no digit first. -/
def unread (s : String) : Prop := '.' ∉ s.toList ∧ ∀ c ∈ s.toList.head?, is_digit c = false

section Parse

variable {s : String}

theorem toString_no_dot (n : Int) : '.' ∉ (toString n).toList := by
  have hnat : ∀ m : Nat, '.' ∉ Nat.toDigits 10 m := fun m h =>
    absurd ((toDigits_spec m).2.1 _ h) (by decide)
  cases n with
  | ofNat m => exact hnat m
  | negSucc m =>
    show '.' ∉ '-' :: Nat.toDigits 10 (m + 1)
    simpa using hnat (m + 1)

theorem field_no_dot (n : Int) (hs : unread s) :
    ∀ x ∈ (toString n).toList ++ s.toList, ¬(x == '.') = true := by
  intro x hx he
  rw [beq_iff_eq] at he
  subst he
  rcases List.mem_append.1 hx with h | h
  exacts [toString_no_dot n h, hs.1 h]

theorem parse_version_fields (v : version_t) (hv : v.fits) {s₀ s₁ s₂ : String} (h₀ : unread s₀)
    (h₁ : unread s₁) (h₂ : unread s₂) :
    parse_version (toString v.major ++ s₀ ++ "." ++ toString v.minor ++ s₁ ++ "." ++
      toString v.patch ++ s₂) = some v := by
  have hsplit : (toString v.major ++ s₀ ++ "." ++ toString v.minor ++ s₁ ++ "." ++
      toString v.patch ++ s₂).toList.splitOnP (· == '.') =
      [(toString v.major).toList ++ s₀.toList, (toString v.minor).toList ++ s₁.toList,
        (toString v.patch).toList ++ s₂.toList] := by
    rw [show (toString v.major ++ s₀ ++ "." ++ toString v.minor ++ s₁ ++ "." ++ toString v.patch ++
        s₂).toList = (toString v.major).toList ++ s₀.toList ++ '.' :: ((toString v.minor).toList ++
        s₁.toList ++ '.' :: ((toString v.patch).toList ++ s₂.toList)) by simp [String.toList]]
    rw [List.splitOnP_first _ _ (field_no_dot _ h₀) '.' rfl,
      List.splitOnP_first _ _ (field_no_dot _ h₁) '.' rfl,
      List.splitOnP_eq_single _ _ (field_no_dot _ h₂)]
  obtain ⟨hmaj, hmin, hpat⟩ := hv
  simp only [parse_version, hsplit, stoi_toString hmaj h₀.2, stoi_toString hmin h₁.2,
    stoi_toString hpat h₂.2]

theorem is_old_version_iff (current latest : version_t) :
    is_old_version current latest = true ↔ current.major < latest.major ∨
      current.major = latest.major ∧ (current.minor < latest.minor ∨
        current.minor = latest.minor ∧ current.patch < latest.patch) := by
  simp only [is_old_version, Bool.ite_eq_true_distrib, Bool.false_eq_true, if_true_left,
    if_false_left, ite_eq_left_iff, ite_eq_right_iff, imp_false, Decidable.imp_iff_not_or, not_not,
    not_lt, gt_iff_lt, ge_iff_le, not_le]
  omega

end Parse

/-! ## `check_latest_version` -/

/-- The RDATA of a TXT answer: one or more character-strings, each of at most 255 bytes behind
its length byte. -/
structure txt_rdata where
  strings : List String
  nonempty : strings ≠ []
  short : ∀ s ∈ strings, s.utf8ByteSize ≤ 255

/-- `data.append(rdata + 1, rdata[0])`: the first character-string. -/
def txt_rdata.first (r : txt_rdata) : String := r.strings.head r.nonempty

/-- What `res_query` and `ns_initparse` make of the query for the TXT records. -/
inductive dns_reply where
  /-- `res_query` returned -1. -/
  | query_failed
  /-- `ns_initparse` failed. -/
  | init_failed
  /-- The answer section, record by record; `none` where `ns_parserr` fails. -/
  | answers (rrs : List (Option txt_rdata))

/-- The loop of `get_dns_record` over the answers, from the data read so far; the flag is whether
it set `ec`. -/
def get_dns_record_loop (data : String) : List (Option txt_rdata) → String × Bool
  | [] => (data, false)
  | none :: _ => (data, true)
  | some r :: rrs => get_dns_record_loop (data ++ r.first) rrs

/-- `get_dns_record(url, ec)`: the data, and whether `ec` is set. -/
def get_dns_record : dns_reply → String × Bool
  | .query_failed | .init_failed => ("", true)
  | .answers rrs => get_dns_record_loop "" rrs

/-- `query_latest_version()`. -/
def query_latest_version (reply : dns_reply) : String :=
  let (version_str, ec) := get_dns_record reply
  if ec then "" else version_str

/-- `STORAGE_SERVER_VERSION_STRING`, as `version.h` defines it unless the build does. -/
def STORAGE_SERVER_VERSION_STRING : String := "1.0.5"

/-- The levels `check_latest_version` logs at. -/
inductive LogLevel where
  | warn
  | debug
  deriving Repr, DecidableEq

/-- `check_latest_version()` of a server at version `current`: the line it logs. -/
def check_latest_version (current : version_t) (reply : dns_reply) : LogLevel × String :=
  let latest_version_str := query_latest_version reply
  if latest_version_str = "" then
    (.warn, "Failed to retrieve or parse the latest version number from DNS record")
  else
    match parse_version latest_version_str with
    | none => (.warn, "Could not parse the latest version: " ++ latest_version_str)
    | some latest_version =>
      if is_old_version current latest_version then
        (.warn, "You are using an outdated version of the storage server (" ++
          STORAGE_SERVER_VERSION_STRING ++ "), please update to " ++ latest_version_str ++ "!")
      else
        (.debug, "You are using the latest version of the storage server (" ++
          STORAGE_SERVER_VERSION_STRING ++ ")")

theorem get_dns_record_loop_answers (data : String) (rrs : List txt_rdata) :
    get_dns_record_loop data (rrs.map some) = ((rrs.map txt_rdata.first).foldl (· ++ ·) data, false) := by
  induction rrs generalizing data with
  | nil => rfl
  | cons r rrs ih => exact ih (data ++ r.first)

theorem to_string_ne_empty (v : version_t) : v.to_string ≠ "" := fun h => by
  have := congrArg String.toList h
  simp [version_t.to_string] at this

/-- **The version check warns exactly when the server is outdated.** When the first
character-strings of the TXT answers spell a version in `int` range, `check_latest_version` warns
that the server is outdated and names that version exactly when the running version is
lexicographically older; otherwise it logs at debug level that it is the latest. -/
theorem check_latest_version_warns_iff_outdated (current latest : version_t) (hl : latest.fits)
    (rrs : List txt_rdata) (hrrs : String.join (rrs.map txt_rdata.first) = latest.to_string) :
    check_latest_version current (.answers (rrs.map some)) =
      if current.major < latest.major ∨ current.major = latest.major ∧
          (current.minor < latest.minor ∨
            current.minor = latest.minor ∧ current.patch < latest.patch) then
        (.warn, "You are using an outdated version of the storage server (" ++
          STORAGE_SERVER_VERSION_STRING ++ "), please update to " ++ latest.to_string ++ "!")
      else
        (.debug, "You are using the latest version of the storage server (" ++
          STORAGE_SERVER_VERSION_STRING ++ ")") := by
  have hread : query_latest_version (.answers (rrs.map some)) = latest.to_string := by
    simp only [query_latest_version, get_dns_record, get_dns_record_loop_answers]
    exact hrrs
  have hparse : parse_version latest.to_string = some latest := by
    have hu : unread "" := ⟨by simp, by simp⟩
    simpa only [String.append_empty] using parse_version_fields latest hl hu hu hu
  simp only [check_latest_version, hread, to_string_ne_empty, hparse, reduceIte]
  by_cases h : is_old_version current latest = true
  · rw [if_pos h, if_pos ((is_old_version_iff _ _).1 h)]
  · rw [if_neg h, if_neg (mt (is_old_version_iff _ _).2 h)]

theorem dns_record_warns_of_newer_release :
    let rr : txt_rdata := ⟨["1.0.6"], by decide, by decide⟩
    (⟨1, 0, 6⟩ : version_t).fits ∧ String.join ([rr].map txt_rdata.first) = (⟨1, 0, 6⟩ : version_t).to_string ∧
      check_latest_version ⟨1, 0, 5⟩ (.answers [some rr]) =
        (.warn, "You are using an outdated version of the storage server (1.0.5), please update to 1.0.6!") := by
  intro rr
  have hfit : (⟨1, 0, 6⟩ : version_t).fits := by decide
  have hjoin : String.join ([rr].map txt_rdata.first) = (⟨1, 0, 6⟩ : version_t).to_string := by
    decide
  refine ⟨hfit, hjoin, ?_⟩
  rw [show [some rr] = [rr].map some from rfl,
    check_latest_version_warns_iff_outdated ⟨1, 0, 5⟩ ⟨1, 0, 6⟩ hfit [rr] hjoin]
  decide

end ArqmaStorage
