import RcDynamics.Decimal
import RcDynamics.Frames
import RcDynamics.Initialisation
import RcDynamics.Session

/-!
# The order of versions

Which firmware versions make `deleteDestinationsFromStream` send one request. The decision rests
on the three characters after the `v`: they hold a major version of one digit and the leading
digit of the minor version, so a minor version of two digits is taken for a smaller one.
-/

namespace RcDynamics

open Effect

/-- The leading decimal digit. -/
def leadingDigit (n : Nat) : Nat := n / 10 ^ Nat.log 10 n

/-- A digit is its own leading digit. -/
theorem leadingDigit_of_lt {n : Nat} (small : n < 10) : leadingDigit n = n := by
  rw [leadingDigit, Nat.log_of_lt small, Nat.pow_zero, Nat.div_one]

/-- A leading digit is a digit. -/
theorem leadingDigit_lt (n : Nat) : leadingDigit n < 10 := by
  refine Nat.div_lt_of_lt_mul ?_
  rw [← Nat.pow_succ]
  exact Nat.lt_pow_succ_log_self (by decide) n

/-- The decimal representation of a number begins with that of its quotient by a power of ten. -/
theorem toDigits_split {i n : Nat} (long : 10 ^ i ≤ n ∨ i = 0) :
    ∃ tail, Nat.toDigits 10 n = Nat.toDigits 10 (n / 10 ^ i) ++ tail := by
  induction i generalizing n with
  | zero => exact ⟨[], by simp⟩
  | succ i ih =>
    have large := long.resolve_right (Nat.succ_ne_zero i)
    rw [Nat.pow_succ] at large
    have shorter : 10 ^ i ≤ n / 10 := (Nat.le_div_iff_mul_le (by decide)).mpr large
    have ten : 10 ≤ n := le_trans (Nat.le_mul_of_pos_left 10 (Nat.pow_pos (by decide))) large
    obtain ⟨tail, split⟩ := ih (Or.inl shorter)
    refine ⟨tail ++ [(n % 10).digitChar], ?_⟩
    rw [Nat.toDigits_of_base_le (by decide) ten, split, List.append_assoc, Nat.div_div_eq_div_mul,
      Nat.pow_succ']

/-- The decimal representation of a number begins with its leading digit. -/
theorem toDigits_leadingDigit (n : Nat) :
    ∃ tail, Nat.toDigits 10 n = (leadingDigit n).digitChar :: tail := by
  have long : 10 ^ Nat.log 10 n ≤ n ∨ Nat.log 10 n = 0 := by
    by_cases zero : n = 0
    · exact Or.inr (by simp [zero])
    · exact Or.inl (Nat.pow_log_le_self 10 zero)
  obtain ⟨tail, split⟩ := toDigits_split long
  refine ⟨tail, ?_⟩
  rw [split, ← leadingDigit, Nat.toDigits_of_lt_base (leadingDigit_lt n), List.singleton_append]

/-- Digits alone are read as their number. -/
theorem decimalPrefix_digits {whole : List Char} (all : ∀ c ∈ whole, c.isDigit = true) :
    decimalPrefix whole = Nat.ofDigitChars 10 whole 0 := by
  obtain ⟨taken, rest⟩ := Decimal.takeWhile_digits [] all rfl
  rw [List.append_nil] at taken rest
  unfold decimalPrefix
  simp [taken, rest, fractionAfter, exponentAfter]

/-- Digits around a point are read as a decimal fraction. -/
theorem decimalPrefix_point {whole fraction : List Char} (all : ∀ c ∈ whole, c.isDigit = true)
    (after : ∀ c ∈ fraction, c.isDigit = true) :
    decimalPrefix (whole ++ '.' :: fraction) =
      Nat.ofDigitChars 10 (whole ++ fraction) 0 / 10 ^ fraction.length := by
  obtain ⟨taken, rest⟩ := Decimal.takeWhile_digits ('.' :: fraction) all rfl
  obtain ⟨places, nothing⟩ := Decimal.takeWhile_digits [] after rfl
  rw [List.append_nil] at places nothing
  unfold decimalPrefix
  simp [taken, rest, fractionAfter, places, nothing, exponentAfter]

/-- A digit is not the mark of a hexadecimal number. -/
theorem toLower_ne_of_isDigit {c : Char} (digit : c.isDigit = true) : c.toLower ≠ 'x' := by
  have bounds : 48 ≤ c.toNat ∧ c.toNat ≤ 57 := by
    simpa [Char.isDigit, UInt32.le_iff_toNat_le] using digit
  intro lower
  unfold Char.toLower at lower
  split at lower
  · rename_i upper
    have above : 65 ≤ c.toNat := by simpa [UInt32.le_iff_toNat_le] using upper.1
    omega
  · rw [lower] at bounds
    exact absurd bounds (by decide)

/-- Digits and points are read as a decimal number. -/
theorem strtof_eq_decimalPrefix {text : List Char}
    (plain : ∀ c ∈ text, c.isDigit = true ∨ c = '.') : strtof text = decimalPrefix text := by
  unfold strtof
  split
  · rename_i x c rest
    have second : x.toLower ≠ 'x' := by
      rcases plain x (by simp) with digit | rfl
      · exact toLower_ne_of_isDigit digit
      · decide
    rw [if_neg fun marked => second marked.1]
  · rfl

/-- The literal `1.600001` denotes a number near to it. -/
theorem singleRequestVersion_bounds :
    8 / 5 + 1 / 2000000 ≤ singleRequestVersion ∧ singleRequestVersion ≤ 17 / 10 - 1 / 100 := by
  have error := Rounding.abs_roundBinary_sub_le 53 (1600001 / 1000000)
  rw [abs_le] at error
  unfold singleRequestVersion
  norm_num at error ⊢
  constructor <;> linarith [error.1, error.2]

/-- What reads as at most 1.6 is not new enough. -/
theorem usesSingleRequest_of_le {text : List Char} (positive : 0 ≤ strtof text)
    (old : strtof text ≤ 8 / 5) : usesSingleRequest (stof text) = false := by
  have error := Rounding.abs_roundBinary_sub_le 24 (strtof text)
  rw [abs_of_nonneg positive, abs_le] at error
  have needed := singleRequestVersion_bounds.1
  refine decide_eq_false (not_le.mpr ?_)
  unfold stof
  norm_num at error
  linarith [error.2]

/-- What reads as at least 1.7 is. -/
theorem usesSingleRequest_of_ge {text : List Char} (new : 17 / 10 ≤ strtof text) :
    usesSingleRequest (stof text) = true := by
  have error := Rounding.abs_roundBinary_sub_le 24 (strtof text)
  have positive : 0 ≤ strtof text := le_trans (by norm_num) new
  rw [abs_of_nonneg positive, abs_le] at error
  have needed := singleRequestVersion_bounds.2
  refine decide_eq_true ?_
  unfold stof
  norm_num at error
  linarith [error.1]

/-- The text of a version after its `v`. -/
def versionText (major minor patch : Nat) : List Char :=
  Nat.toDigits 10 major ++ '.' :: (Nat.toDigits 10 minor ++ '.' :: Nat.toDigits 10 patch)

/-- The characters of the name of an image. -/
theorem toList_imageName (start : String) (major minor patch : Nat) :
    (imageName start major minor patch).toList =
      start.toList ++ 'v' :: versionText major minor patch := by
  simp [imageName, versionText, String.toList_append]

/-- A repetition of digits matches a number. -/
theorem mem_rests_digits (n : Nat) (rest : List Char) :
    rest ∈ digits.rests (Nat.toDigits 10 n ++ rest) :=
  Pattern.mem_rests_many Nat.toDigits_ne_nil (Decimal.isDigit_toDigits n) rest

/-- The pattern matches a version at its `v`. -/
theorem matches_versionText (major minor patch : Nat) :
    [] ∈ versionPattern.rests ('v' :: versionText major minor patch) := by
  unfold versionPattern versionText
  refine Pattern.mem_rests_seq (Pattern.mem_rests_one (by decide) _) ?_
  refine Pattern.mem_rests_seq (mem_rests_digits major _) ?_
  refine Pattern.mem_rests_seq (Pattern.mem_rests_one (by decide) _) ?_
  refine Pattern.mem_rests_seq (mem_rests_digits minor _) ?_
  refine Pattern.mem_rests_seq (Pattern.mem_rests_one (by decide) _) ?_
  simpa using mem_rests_digits patch []

/-- No letter `v` of a text is followed by a digit. -/
def NoVersion (text : List Char) : Prop :=
  ∀ before c after, text = before ++ 'v' :: c :: after → c.isDigit = false

/-- The pattern matches only a `v` that is followed by a digit. -/
theorem rests_versionPattern_eq_nil {text : List Char}
    (other : ∀ c rest, text = 'v' :: c :: rest → c.isDigit = false) :
    versionPattern.rests text = [] := by
  cases text with
  | nil => rfl
  | cons v text =>
    by_cases letter : v = 'v'
    · subst letter
      cases text with
      | nil => rfl
      | cons c rest =>
        simp [versionPattern, digits, Pattern.rests, Pattern.runs, other c rest rfl]
    · simp [versionPattern, Pattern.rests, letter]

/-- In the name of an image the version is found after a start that shows none. -/
theorem search_imageName {start : String} (plain : NoVersion start.toList)
    (major minor patch : Nat) :
    ∃ taken later, versionPattern.search (imageName start major minor patch).toList = some taken ∧
      'v' :: versionText major minor patch = taken ++ later ∧ 6 ≤ taken.length := by
  rw [toList_imageName, Pattern.search_append]
  · obtain ⟨taken, later, split, long, found⟩ := Pattern.search_here (List.cons_ne_nil _ _)
      (matches_versionText major minor patch)
    exact ⟨taken, later, found, split, long⟩
  · intro before after split some
    refine rests_versionPattern_eq_nil fun c rest shown => ?_
    cases after with
    | nil => exact absurd rfl some
    | cons v after =>
      rw [List.cons_append, List.cons.injEq] at shown
      obtain ⟨rfl, shown⟩ := shown
      cases after with
      | nil =>
        obtain ⟨rfl, -⟩ := List.cons.inj shown
        decide
      | cons d after =>
        obtain ⟨rfl, -⟩ := List.cons.inj shown
        exact plain before d after split

/-- The version is read from the three characters after the `v`. -/
theorem extractVersion_imageName {start : String} (plain : NoVersion start.toList)
    (major minor patch : Nat) :
    extractVersion (imageName start major minor patch) =
      some (stof ((versionText major minor patch).take 3)) := by
  obtain ⟨taken, later, found, split, long⟩ := search_imageName plain major minor patch
  unfold extractVersion
  rw [found, Option.map_some]
  cases taken with
  | nil => exact absurd long (by decide)
  | cons v taken =>
    rw [List.cons_append] at split
    obtain ⟨-, same⟩ := List.cons.inj split
    have enough : 3 ≤ taken.length := by
      rw [List.length_cons] at long
      omega
    rw [same, List.take_append_of_le_length enough]
    rfl

/-- A number of as many digits as it takes up to a power of ten. -/
theorem length_toDigits {n k : Nat} (large : 10 ^ k ≤ n) (small : n < 10 ^ (k + 1)) :
    (Nat.toDigits 10 n).length = k + 1 := by
  have most := (Nat.length_toDigits_le_iff (b := 10) (n := n) (by decide) k.succ_pos).mpr small
  cases k with
  | zero =>
    have some := Nat.length_toDigits_pos (b := 10) (n := n)
    omega
  | succ k =>
    have least := (Nat.length_toDigits_le_iff (b := 10) (n := n) (by decide) k.succ_pos).not.mpr
      (not_lt.mpr large)
    omega

/-- A major version of one digit is read with the leading digit of the minor version. -/
theorem strtof_versionText_short {major : Nat} (short : major < 10) (minor patch : Nat) :
    strtof ((versionText major minor patch).take 3) =
      (10 * major + leadingDigit minor : ℕ) / 10 := by
  obtain ⟨tail, split⟩ := toDigits_leadingDigit minor
  have shown : (versionText major minor patch).take 3 =
      [major.digitChar] ++ '.' :: [(leadingDigit minor).digitChar] := by
    rw [versionText, Nat.toDigits_of_lt_base short, split]
    rfl
  have whole : ∀ c ∈ [major.digitChar], c.isDigit = true := by
    simp [Nat.isDigit_digitChar, short]
  have fraction : ∀ c ∈ [(leadingDigit minor).digitChar], c.isDigit = true := by
    simp [Nat.isDigit_digitChar, leadingDigit_lt minor]
  rw [shown, strtof_eq_decimalPrefix, decimalPrefix_point whole fraction]
  · rw [List.singleton_append, Nat.ofDigitChars_cons_digitChar_of_lt_ten short,
      Nat.ofDigitChars_cons_digitChar_of_lt_ten (leadingDigit_lt minor)]
    simp
  · simp [Nat.isDigit_digitChar, short, leadingDigit_lt minor]

/-- A longer major version is read alone, cut off after three digits. -/
theorem strtof_versionText_long {major : Nat} (long : 10 ≤ major) (minor patch : Nat) :
    10 ≤ strtof ((versionText major minor patch).take 3) := by
  by_cases two : major < 100
  · have length := length_toDigits (k := 1) long two
    have shown : (versionText major minor patch).take 3 = Nat.toDigits 10 major ++ '.' :: [] := by
      rw [versionText, List.take_append, length, List.take_of_length_le (by omega)]
      rfl
    have plain : ∀ c ∈ Nat.toDigits 10 major ++ '.' :: [], c.isDigit = true ∨ c = '.' := by
      intro c member
      exact (List.mem_append.mp member).imp (Decimal.isDigit_toDigits major c) List.mem_singleton.mp
    rw [shown, strtof_eq_decimalPrefix plain,
      decimalPrefix_point (Decimal.isDigit_toDigits major)
        fun _ none => absurd none List.not_mem_nil]
    simpa using long
  · have large : 10 ^ 2 ≤ major := not_lt.mp two
    have least : 2 ≤ Nat.log 10 major := Nat.le_log_of_pow_le (by decide) large
    have above : 10 ^ Nat.log 10 major ≤ major := Nat.pow_log_le_self 10 (by omega)
    have below : major < 10 ^ (Nat.log 10 major + 1) := Nat.lt_pow_succ_log_self (by decide) major
    obtain ⟨i, places⟩ := Nat.exists_eq_add_of_le least
    rw [places] at above below
    obtain ⟨tail, split⟩ := toDigits_split (i := i) (n := major)
      (Or.inl (le_trans (Nat.pow_le_pow_right (by decide) (by omega)) above))
    have from' : 10 ^ 2 ≤ major / 10 ^ i := by
      rw [Nat.le_div_iff_mul_le (Nat.pow_pos (by decide)), ← Nat.pow_add]
      exact above
    have to' : major / 10 ^ i < 10 ^ (2 + 1) := by
      rw [Nat.div_lt_iff_lt_mul (Nat.pow_pos (by decide)), ← Nat.pow_add]
      exact lt_of_lt_of_eq below (by ring)
    have length := length_toDigits from' to'
    have shown : (versionText major minor patch).take 3 = Nat.toDigits 10 (major / 10 ^ i) := by
      rw [versionText, split, List.append_assoc, List.take_append_of_le_length (by omega),
        List.take_of_length_le (by omega)]
    have digit := Decimal.isDigit_toDigits (major / 10 ^ i)
    rw [shown, strtof_eq_decimalPrefix fun c member => Or.inl (digit c member),
      decimalPrefix_digits digit, Nat.ofDigitChars_ten_toDigits]
    exact_mod_cast le_trans (by decide) from'

/-- Which versions are new enough for one request. -/
theorem usesSingleRequest_imageName {start : String} (plain : NoVersion start.toList)
    (major minor patch : Nat) :
    ∃ version, extractVersion (imageName start major minor patch) = some version ∧
      (usesSingleRequest version = true ↔
        1 < major ∨ major = 1 ∧ 7 ≤ leadingDigit minor) := by
  refine ⟨_, extractVersion_imageName plain major minor patch, ?_⟩
  by_cases short : major < 10
  · have value := strtof_versionText_short short minor patch
    have digit := leadingDigit_lt minor
    by_cases old : 10 * major + leadingDigit minor ≤ 16
    · have bound : ((10 * major + leadingDigit minor : ℕ) : ℚ) ≤ 16 := by exact_mod_cast old
      have refused : usesSingleRequest (stof ((versionText major minor patch).take 3)) = false :=
        usesSingleRequest_of_le (by rw [value]; positivity) (by rw [value]; linarith)
      rw [refused]
      exact iff_of_false Bool.false_ne_true (by omega)
    · have bound : 17 ≤ ((10 * major + leadingDigit minor : ℕ) : ℚ) := by
        exact_mod_cast not_le.mp old
      have accepted : usesSingleRequest (stof ((versionText major minor patch).take 3)) = true :=
        usesSingleRequest_of_ge (by rw [value]; linarith)
      rw [accepted]
      exact iff_of_true rfl (by omega)
  · have value := strtof_versionText_long (not_lt.mp short) minor patch
    rw [usesSingleRequest_of_ge (by linarith)]
    exact iff_of_true rfl (by omega)

/-- The last answer to a request for a resource. -/
def lastAnswer (resource : Resource) (events : List Event) : Option Response :=
  (events.filterMap fun
    | .http request response => if request.resource = resource then some response else none
    | _ => none).getLast?

/-- The last answer of two parts of a trace is that of the later one, if it has any. -/
theorem lastAnswer_append (resource : Resource) (first second : List Event) :
    lastAnswer resource (first ++ second) =
      (lastAnswer resource second).or (lastAnswer resource first) := by
  unfold lastAnswer
  rw [List.filterMap_append, List.getLast?_append]

/-- Without a request for the resource there is no answer. -/
theorem lastAnswer_eq_none {resource : Resource} {events : List Event}
    (others : ∀ request ∈ requests events, request.resource ≠ resource) :
    lastAnswer resource events = none := by
  unfold lastAnswer
  rw [List.getLast?_eq_none_iff, List.filterMap_eq_nil_iff]
  intro e member
  cases e with
  | http request response => exact if_neg (others request (List.mem_filterMap.mpr ⟨_, member, rfl⟩))
  | wait ms => rfl
  | receive pbMsgType => rfl

/-- Requests for other resources leave the last answer. -/
theorem lastAnswer_of_asks {resource : Resource} {s t : Sys}
    (asks : Asks (fun request => request.resource ≠ resource) s t) :
    lastAnswer resource t.world.trace = lastAnswer resource s.world.trace := by
  obtain ⟨events, trace, others⟩ := asks
  rw [trace, lastAnswer_append, lastAnswer_eq_none others]
  rfl

/-- The last description of the system names this image. -/
def NamesImage (env : Env) (version : String) (s : Sys) : Prop :=
  ∃ response j, lastAnswer .system s.world.trace = some response ∧
    env.parse response.text = some j ∧ RemoteInterface.imageVersion j = .ok version

/-- It names one. -/
theorem NamesImage.unique {env : Env} {version other : String} {s : Sys}
    (named : NamesImage env version s) (named' : NamesImage env other s) : version = other := by
  obtain ⟨response, j, answered, parsed, image⟩ := named
  obtain ⟨response', j', answered', parsed', image'⟩ := named'
  obtain rfl : response = response' := Option.some.inj (answered.symm.trans answered')
  obtain rfl : j = j' := Option.some.inj (parsed.symm.trans parsed')
  exact Except.ok.inj (image.symm.trans image')

namespace RemoteInterface

variable {env : Env} {version : String}

/-- A request that returns leaves its answer as the last one for its resource. -/
theorem withRetry_lastAnswer {request : Request} {r : Response} {s t : Sys}
    (ran : (withRetry env request waitBeforeRetry).run s = .ok r t) :
    lastAnswer request.resource t.world.trace = some r := by
  obtain ⟨rejected, _, _, ends⟩ := run_withRetry env request waitBeforeRetry s
  rw [ran] at ends
  cases asked : answer env request waitBeforeRetry s.world.tick with
  | mk result n =>
    rw [asked] at ends
    cases result with
    | some answered =>
      cases ends
      unfold lastAnswer
      simp [Sys.advance]
    | none => cases ends

/-- A ready system has named its image, and leaves the version in that name, or none. -/
theorem readSystem_version {s t : Sys} (unset : s.iface.visardVersion = 0)
    (ran : (readSystem env).run s = .ok true t) :
    ∃ version, NamesImage env version t ∧
      t.iface.visardVersion = (extractVersion version).getD 0 := by
  unfold readSystem at ran
  obtain ⟨_, s₁, first, ran₁⟩ := run_bind_eq_ok.mp ran
  rw [run_this_bind] at ran₁
  obtain ⟨response, s₂, pinged, ran₂⟩ := run_bind_eq_ok.mp ran₁
  have began : s₂.iface = s.iface :=
    ((cprGetWithRetry_aside env (by decide) _ s₁).of_ok pinged).iface.trans
      (allocate_ok env first).iface
  split_ifs at ran₂
  · cases ran₂
  obtain ⟨_, s₃, passed, ran₃⟩ := run_bind_eq_ok.mp ran₂
  obtain ⟨-, rfl⟩ := handleCPRResponse_ok passed
  obtain ⟨_, s₄, second, ran₄⟩ := run_bind_eq_ok.mp ran₃
  rw [run_this_bind] at ran₄
  obtain ⟨getSystem, s₅, got, ran₅⟩ := run_bind_eq_ok.mp ran₄
  have went : s₅.iface = s₃.iface :=
    ((cprGetWithRetry_aside env (by decide) _ s₄).of_ok got).iface.trans
      (allocate_ok env second).iface
  have last : lastAnswer .system s₅.world.trace = some getSystem := withRetry_lastAnswer got
  obtain ⟨_, s₆, succeeded, ran₆⟩ := run_bind_eq_ok.mp ran₅
  obtain ⟨-, rfl⟩ := handleCPRResponse_ok succeeded
  obtain ⟨j, s₇, parsed, ran₇⟩ := run_bind_eq_ok.mp ran₆
  obtain ⟨document, rfl⟩ := parseJson_ok parsed
  obtain ⟨ready, s₈, read, ran₈⟩ := run_bind_eq_ok.mp ran₇
  obtain ⟨-, rfl⟩ := lift_ok_iff.mp read
  split_ifs at ran₈
  · cases ran₈
  obtain ⟨version, s₉, seen, ran₉⟩ := run_bind_eq_ok.mp ran₈
  obtain ⟨image, rfl⟩ := lift_ok_iff.mp seen
  obtain ⟨_, s₁₀, third, ran₁₀⟩ := run_bind_eq_ok.mp ran₉
  cases ran₁₀
  have kept : s₁₀.iface = s.iface :=
    (allocate_ok env third).iface.trans (went.trans began)
  have allows := Asks.allows fun request => request.resource ≠ Resource.system
  have silent := (allocate_allowed allows.converses env _).of_ok third
  refine ⟨version, ⟨getSystem, j, (lastAnswer_of_asks silent).trans last, document, image⟩, ?_⟩
  change (setVersion version s₁₀.iface).visardVersion = _
  unfold setVersion
  rw [kept]
  cases extractVersion version with
  | none => exact unset
  | some visardVersion => rfl

/-- After a run of `checkSystemReady` that initialises, the image has been named, and the version
is the one in that name. -/
theorem checkSystemReady_version (s : Sys)
    (ready : (final ((checkSystemReady env).run s)).iface.initialized = true) :
    ∃ version, NamesImage env version (final ((checkSystemReady env).run s)) ∧
      (final ((checkSystemReady env).run s)).iface.visardVersion =
        (extractVersion version).getD 0 := by
  have system := readSystem_aside env { s with iface := s.iface.reset }
  rw [run_checkSystemReady] at ready ⊢
  cases first : (readSystem env).run { s with iface := s.iface.reset } with
  | error e t =>
    rw [first] at ready
    have kept : t.iface.initialized = false := congrArg initialized (system.of_error first).observed
    exact absurd (kept.symm.trans ready) (by decide)
  | ok done t =>
    have kept : t.iface.initialized = false := congrArg initialized (system.of_ok first).observed
    rw [first] at ready
    cases done with
    | false => exact absurd (kept.symm.trans ready) (by decide)
    | true =>
      have streams := readStreams_harmless env t
      simp only at ready ⊢
      cases second : (readStreams env).run t with
      | error e u =>
        rw [second] at ready
        have still : u.iface.initialized = t.iface.initialized :=
          (congrArg initialized (streams.of_error second).observed :)
        exact absurd (kept.symm.trans (still.symm.trans ready)) (by decide)
      | ok _ u =>
        have still : u.iface.visardVersion = t.iface.visardVersion :=
          (congrArg visardVersion (streams.of_ok second).observed :)
        -- Reading the streams asks for nothing of the system.
        have allows := Asks.allows fun request => request.resource ≠ Resource.system
        have others := (readStreams_allowed allows.converses env
          (fun request _ streams => by simp [streams]) t).of_ok second
        obtain ⟨version, ⟨response, j, answered, described⟩, found⟩ := readSystem_version rfl first
        exact ⟨version, ⟨response, j, (lastAnswer_of_asks others).trans answered, described⟩,
          still.trans found⟩

/-- The requests sent by a call. -/
def sentBy {α : Type} (call : Call α) (s : Sys) : List Request :=
  (requests (final (call.run s)).world.trace).drop (requests s.world.trace).length

/-- They are those of the events it records. -/
theorem sentBy_of_trace {α : Type} {call : Call α} {s : Sys} {events : List Event}
    (trace : (final (call.run s)).world.trace = s.world.trace ++ events) :
    sentBy call s = requests events := by
  rw [sentBy, trace, requests_append, List.drop_left]

/-- All that a removal sends is the one request that names all of its destinations. -/
def OneRequest (env : Env) (stream : String) (argument : Destinations)
    (destinations : List String) (s : Sys) : Prop :=
  sentBy (deleteDestinationsFromStream env stream argument) s ≠ [] ∧
    ∀ sent ∈ sentBy (deleteDestinationsFromStream env stream argument) s,
      sent = s.iface.deletion stream destinations

/-- Requests to remove different destinations differ. -/
theorem deletion_injective (iface : RemoteInterface) (stream : String) :
    Function.Injective (iface.deletion stream) := by
  intro first second same
  have changed := congrArg Request.change same
  rw [change_deletion, change_deletion] at changed
  cases changed
  rfl

/-- Erasing what has been requested sends nothing. -/
theorem eraseRequested_trace (stream : String) (argument : Destinations) (s : Sys) :
    (final ((eraseRequested stream argument).run s)).world.trace = s.world.trace := by
  cases argument with
  | list values => rfl
  | tracked epoch =>
    unfold eraseRequested
    rw [run_this_bind]
    split <;> rfl

/-- A removal from an available stream sends the requests for its groups, up to the first that is
not accepted. -/
theorem deleteDestinationsFromStream_removals (env : Env) {s : Sys} {stream : String}
    (available : Available s.iface stream) {argument : Destinations} {destinations : List String}
    (read : (argument.read stream).run s = .ok destinations s) :
    ∃ events t, Removals env stream (s.iface.deletionGroups destinations) events s t ∧
      sentBy (deleteDestinationsFromStream env stream argument) s = requests events := by
  obtain ⟨events, t, removals, ends⟩ :=
    run_deleteGroups env stream (s.iface.deletionGroups destinations) s
  refine ⟨events, t, removals, sentBy_of_trace ?_⟩
  rw [← removals.trace]
  unfold deleteDestinationsFromStream
  rw [run_bind_of_ok (run_checkStreamTypeAvailable env available), run_bind_of_ok read]
  rw [← run_deleteRequests] at ends
  rcases ends with ⟨_, ran⟩ | ⟨_, e, _, ran⟩
  · rw [run_bind_of_ok ran]
    exact eraseRequested_trace stream argument t
  · rw [run_bind_of_error ran]
    rfl

/-- With any number of destinations but one, the requests sent show whether the version was taken
to be new enough. -/
theorem oneRequest_iff {s : Sys} {stream : String} (available : Available s.iface stream)
    {argument : Destinations} {destinations : List String}
    (read : (argument.read stream).run s = .ok destinations s) (several : destinations.length ≠ 1)
    (valid : destinations.all env.utf8 = true) :
    OneRequest env stream argument destinations s ↔
      usesSingleRequest s.iface.visardVersion = true := by
  obtain ⟨events, t, removals, sent⟩ :=
    deleteDestinationsFromStream_removals env available read
  unfold OneRequest
  rw [sent]
  cases single : usesSingleRequest s.iface.visardVersion with
  | true =>
    have groups : triedGroups env s.iface stream (s.iface.deletionGroups destinations)
        s.world.tick = [destinations] := by
      rw [triedGroups, deletionGroups, if_pos single, List.take_succ_cons, List.take_nil]
    refine iff_of_true ⟨?_, fun request member => ?_⟩ rfl
    · exact List.ne_nil_of_mem
        (removals.attempted destinations (groups ▸ List.mem_singleton_self _) valid)
    · obtain ⟨group, tried, asked⟩ := removals.asked request member
      rw [groups, List.mem_singleton] at tried
      exact tried ▸ asked
  | false =>
    refine iff_of_false (fun one => ?_) Bool.false_ne_true
    obtain ⟨request, member⟩ := List.exists_mem_of_ne_nil _ one.1
    obtain ⟨group, tried, asked⟩ := removals.asked request member
    have listed := List.mem_of_mem_take tried
    rw [deletionGroups, if_neg (by simp [single])] at listed
    obtain ⟨destination, _, rfl⟩ := List.mem_map.mp listed
    have same := deletion_injective s.iface stream (asked.symm.trans (one.2 request member))
    exact several (by rw [← same]; rfl)

/-- Whether a removal is one request follows the order of versions for exactly the images whose
minor version is not taken for a smaller one: those of a major version other than 1, and those
whose minor version has one digit or leads with at least 7. -/
theorem single_request_follows_order_iff {start : String} (plain : NoVersion start.toList)
    (major minor patch : Nat) (s : Sys)
    (ready : (final ((checkSystemReady env).run s)).iface.initialized = true)
    (named : NamesImage env (imageName start major minor patch)
      (final ((checkSystemReady env).run s)))
    {t : Sys} (kept : t.iface.visardVersion =
      (final ((checkSystemReady env).run s)).iface.visardVersion)
    {stream : String} (available : Available t.iface stream) {argument : Destinations}
    {destinations : List String} (read : (argument.read stream).run t = .ok destinations t)
    (several : destinations.length ≠ 1) (valid : destinations.all env.utf8 = true) :
    (OneRequest env stream argument destinations t ↔ toLex (1, 6) < toLex (major, minor)) ↔
      major ≠ 1 ∨ minor < 10 ∨ 7 ≤ leadingDigit minor := by
  obtain ⟨visardVersion, extracted, single⟩ := usesSingleRequest_imageName plain major minor patch
  obtain ⟨version, named', found⟩ := checkSystemReady_version s ready
  obtain rfl := named'.unique named
  rw [oneRequest_iff available read several valid, kept, found, extracted, Option.getD_some, single,
    Prod.Lex.toLex_lt_toLex]
  have digit := leadingDigit_lt minor
  have small := leadingDigit_of_lt (n := minor)
  dsimp only
  by_cases one : minor < 10
  · rw [small one]
    omega
  · omega

/-- The obliging device with an image of this version. -/
def versionedDevice (version : String) : Env :=
  { obligingDevice with
    parse := fun text =>
      if text = Resource.system.path then
        some (.object [("firmware", .object [("active_image", .object
          [("image_version", .string version)])]), ("ready", .boolean true)])
      else obligingDevice.parse text }

/-- A new object that has been initialised against that device. -/
def versionedSystem (version : String) : Sys :=
  final ((checkSystemReady (versionedDevice version)).run (Session.begin "192.168.0.10" 5000).sys)

/-- The device has named that image. -/
theorem versionedSystem_names {version : String}
    (ready : (versionedSystem version).iface.initialized = true) :
    NamesImage (versionedDevice version) version (versionedSystem version) := by
  unfold versionedSystem at ready ⊢
  obtain ⟨shown, named, _⟩ := checkSystemReady_version _ ready
  obtain ⟨response, j, _, parsed, image⟩ := id named
  -- The system is the only document of the device that names an image.
  have only : imageVersion j = .ok version := by
    unfold versionedDevice obligingDevice at parsed
    simp only at parsed
    split_ifs at parsed
    · cases parsed
      rfl
    · cases parsed
      cases image
    · cases parsed
      cases image
  obtain rfl : shown = version := Except.ok.inj (image.symm.trans only)
  exact named

/-- Two destinations of a caller. -/
def twoDestinations : List String := ["192.168.0.5:40000", "192.168.0.5:40001"]

/-- Version 1.7 is new enough, and is after 1.6. -/
theorem single_request_follows_order_1_7 :
    OneRequest (versionedDevice (imageName "image-" 1 7 0)) "pose" (.list twoDestinations)
        twoDestinations (versionedSystem (imageName "image-" 1 7 0)) ↔
      toLex (1, 6) < toLex (1, 7) := by
  have plain : NoVersion "image-".toList := fun before c after split =>
    absurd (split ▸ List.mem_append_right before List.mem_cons_self : 'v' ∈ "image-".toList)
      (by decide)
  exact (single_request_follows_order_iff plain 1 7 0 _ (by decide +kernel)
    (versionedSystem_names (by decide +kernel)) rfl ⟨by decide +kernel, by decide +kernel⟩ rfl
    (by decide) rfl).mpr (Or.inr (Or.inl (by decide)))

/-- Version 1.10 is after 1.6 and its removals are not one request, although those of 1.7 are: the
choice does not follow the order, nor is it kept by later versions. -/
theorem single_request_lost_1_10 :
    ¬(OneRequest (versionedDevice (imageName "rc_visard-" 1 10 0)) "pose" (.list twoDestinations)
          twoDestinations (versionedSystem (imageName "rc_visard-" 1 10 0)) ↔
        toLex (1, 6) < toLex (1, 10)) ∧
      OneRequest (versionedDevice (imageName "rc_visard-" 1 7 0)) "pose" (.list twoDestinations)
        twoDestinations (versionedSystem (imageName "rc_visard-" 1 7 0)) := by
  have old : ¬OneRequest (versionedDevice (imageName "rc_visard-" 1 10 0)) "pose"
      (.list twoDestinations) twoDestinations
      (versionedSystem (imageName "rc_visard-" 1 10 0)) := by
    rw [oneRequest_iff ⟨by decide +kernel, by decide +kernel⟩ rfl (by decide) rfl]
    decide +kernel
  refine ⟨fun same => old (same.mpr (by decide)), ?_⟩
  rw [oneRequest_iff ⟨by decide +kernel, by decide +kernel⟩ rfl (by decide) rfl]
  decide +kernel

end RemoteInterface

end RcDynamics
