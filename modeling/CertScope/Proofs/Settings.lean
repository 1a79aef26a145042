import CertScope.CommandLine
import CertScope.Proofs.Outcome
import Mathlib.Data.List.DropRight

/-!
# Settings under changes

Settings are changed by texts, which replace them, and by command lines, which override some
of them.  A text is refused for a number of zero and a command line for a deadline of zero,
so that after any run of changes every number is positive.  A run of changes comes to the
last text that was accepted, under the command lines that were accepted behind it.
-/

namespace CertScope

/-- The numbers that have to be positive are. -/
structure Settings.IsPositive (settings : Settings) : Prop where
  crlTimeout : 1 ≤ settings.revocation.crlTimeout
  ocspTimeout : 1 ≤ settings.revocation.ocspTimeout
  maxCrlBytes : 1 ≤ settings.revocation.maxCrlBytes

/-! ## Texts -/

namespace Settings

variable {settings : Settings} {text : String}

theorem isPositive_default : IsPositive {} where
  crlTimeout := by decide
  ocspTimeout := by decide
  maxCrlBytes := by decide

theorem validate_eq_ok {result : Settings} :
    settings.validate = .ok result ↔ settings.IsPositive ∧ settings = result := by
  have refused (zero : ¬ settings.IsPositive) :
      False ↔ settings.IsPositive ∧ settings = result := by
    rw [false_iff]
    rintro ⟨positive, -⟩
    exact zero positive
  unfold validate
  split_ifs with crl ocsp size
  · exact refused fun positive => Nat.one_le_iff_ne_zero.1 positive.crlTimeout crl
  · exact refused fun positive => Nat.one_le_iff_ne_zero.1 positive.ocspTimeout ocsp
  · exact refused fun positive => Nat.one_le_iff_ne_zero.1 positive.maxCrlBytes size
  · rw [Except.ok.injEq, iff_and_self]
    intro
    constructor
    all_goals omega

theorem isPositive_of_ofToml (accepted : ofToml text = .ok settings) : settings.IsPositive := by
  unfold ofToml at accepted
  split at accepted
  · cases accepted
  · obtain ⟨positive, rfl⟩ := validate_eq_ok.1 accepted
    exact positive

end Settings

/-! ## Command lines -/

namespace CommandLine

open Outcome

variable {draft next : Draft} {state after : State}

theorem seconds_eq_ok {text : String} {number : Nat} (accepted : seconds text = .ok number) :
    1 ≤ number := by
  unfold seconds at accepted
  split at accepted
  · split at accepted
    · rename_i bounds
      obtain rfl := Except.ok.inj accepted
      exact bounds.1
    · cases accepted
  · cases accepted

/-- A deadline that has been read is positive. -/
def Draft.IsPositive (draft : Draft) : Prop := ∀ number ∈ draft.timeout, 1 ≤ number

theorem Draft.IsPositive.give (positive : draft.IsPositive) {value : String}
    {option : ValueOption} (given : draft.give value option = .ok next) : next.IsPositive := by
  cases option with
  | authority =>
      simp only [Draft.give, bind_eq_ok, pure_eq_ok] at given
      obtain ⟨_, -, _, -, rfl⟩ := given
      exact positive
  | config =>
      simp only [Draft.give, bind_eq_ok, pure_eq_ok] at given
      obtain ⟨_, -, _, -, rfl⟩ := given
      exact positive
  | timeout =>
      simp only [Draft.give, bind_eq_ok, pure_eq_ok] at given
      obtain ⟨_, -, number, read, rfl⟩ := given
      intro other member
      obtain rfl := Option.some.inj member
      exact seconds_eq_ok read

theorem Draft.IsPositive.settle (positive : draft.IsPositive) {pending : Option Pending}
    (settled : draft.settle pending = .ok next) : next.IsPositive := by
  unfold Draft.settle at settled
  split at settled
  · obtain rfl := Except.ok.inj settled
    exact positive
  · simp only [bind_eq_ok, pure_eq_ok] at settled
    obtain ⟨_, -, rfl⟩ := settled
    exact positive
  · cases settled
  · exact positive.give settled

/-- Flags leave the deadline as it is. -/
theorem Draft.timeout_of_set {flag : Flag} (set : draft.set flag = .ok next) :
    next.timeout = draft.timeout := by
  unfold Draft.set at set
  cases flag with
  | help => cases set
  | version => cases set
  | json | skipCrl | skipOcsp | noColor =>
      dsimp only at set
      split at set
      · cases set
      · obtain rfl := Except.ok.inj set
        rfl

theorem Draft.IsPositive.set (positive : draft.IsPositive) {flag : Flag}
    (set : draft.set flag = .ok next) : next.IsPositive := by
  intro number member
  rw [Draft.timeout_of_set set] at member
  exact positive number member

/-- A deadline that has been read is positive, whatever is pending. -/
def State.IsPositive (state : State) : Prop := state.draft.IsPositive

theorem State.IsPositive.settled (positive : state.IsPositive)
    (settled : state.settled = .ok next) : next.IsPositive :=
  Draft.IsPositive.settle positive settled

theorem State.IsPositive.option (positive : state.IsPositive) {option : ValueOption}
    {attached : Option String} (taken : state.option option attached = .ok after) :
    after.IsPositive := by
  simp only [State.option, bind_eq_ok] at taken
  obtain ⟨draft, settled, taken⟩ := taken
  have earlier := positive.settled settled
  cases attached with
  | none =>
      rw [pure_eq_ok] at taken
      subst after
      exact earlier
  | some value =>
      simp only [bind_eq_ok, pure_eq_ok] at taken
      obtain ⟨given, read, rfl⟩ := taken
      exact earlier.give read

theorem State.IsPositive.flag (positive : state.IsPositive) {flag : Flag}
    (taken : state.flag flag = .ok after) : after.IsPositive := by
  simp only [State.flag, bind_eq_ok, pure_eq_ok] at taken
  obtain ⟨draft, settled, given, set, rfl⟩ := taken
  exact (positive.settled settled).set set

theorem State.IsPositive.long (positive : state.IsPositive) {text : List Char}
    (taken : state.long text = .ok after) : after.IsPositive := by
  unfold State.long at taken
  dsimp only at taken
  split at taken
  · exact positive.option taken
  · exact positive.flag taken
  · cases taken
  · cases taken

theorem State.IsPositive.short (positive : state.IsPositive) {names : List Char}
    (taken : state.short names = .ok after) : after.IsPositive := by
  induction names generalizing state with
  | nil =>
      obtain rfl := Except.ok.inj taken
      exact positive
  | cons name names ih =>
      unfold State.short at taken
      split at taken
      · exact positive.option taken
      · simp only [bind_eq_ok] at taken
        obtain ⟨between, flagged, taken⟩ := taken
        exact ih (positive.flag flagged) taken
      · cases taken

theorem State.IsPositive.value (positive : state.IsPositive) {trailing : Bool} {text : String}
    (taken : state.value trailing text = .ok after) : after.IsPositive := by
  unfold State.value at taken
  split at taken
  · rw [pure_eq_ok] at taken
    subst after
    exact positive
  · cases taken
  · split at taken
    · cases taken
    · simp only [bind_eq_ok, pure_eq_ok] at taken
      obtain ⟨draft, settled, rfl⟩ := taken
      exact positive.settled settled

theorem State.IsPositive.argument (positive : state.IsPositive) {text : String}
    (taken : state.argument text = .ok after) : after.IsPositive := by
  unfold State.argument at taken
  split at taken
  · exact positive.long taken
  · split at taken
    · exact positive.value taken
    · exact positive.short taken
  · exact positive.value taken

theorem State.IsPositive.trailing (positive : state.IsPositive) {texts : List String}
    (taken : texts.foldlM (·.value true) state = .ok after) : after.IsPositive := by
  induction texts generalizing state with
  | nil =>
      obtain rfl := Except.ok.inj taken
      exact positive
  | cons text texts ih =>
      rw [List.foldlM_cons, bind_eq_ok] at taken
      obtain ⟨between, here, taken⟩ := taken
      exact ih (positive.value here) taken

theorem State.IsPositive.arguments (positive : state.IsPositive) {texts : List String}
    (taken : state.arguments texts = .ok after) : after.IsPositive := by
  fun_induction State.arguments state texts with
  | case1 state =>
      obtain rfl := Except.ok.inj taken
      exact positive
  | case2 state texts => exact positive.trailing taken
  | case3 state text texts other ih =>
      rw [bind_eq_ok] at taken
      obtain ⟨between, here, taken⟩ := taken
      exact ih between (positive.argument here) taken

/-- No accepted command line asks for a deadline of zero. -/
theorem timeout_of_parse {texts : List String} {arguments : Arguments}
    (accepted : parse texts = .ok arguments) : ∀ number ∈ arguments.timeout, 1 ≤ number := by
  simp only [parse, bind_eq_ok] at accepted
  obtain ⟨state, taken, draft, settled, accepted⟩ := accepted
  have start : State.IsPositive {} := by
    intro number member
    cases member
  have positive : draft.IsPositive := (start.arguments taken).settled settled
  split at accepted
  · cases accepted
  · rw [pure_eq_ok] at accepted
    subst arguments
    exact positive

end CommandLine

/-! ## One change -/

/-- A text that replaces the settings, or a command line that overrides them. -/
inductive Change where
  | replace (text : String)
  | override (texts : List String)

namespace Change

def replacement? : Change → Option Settings
  | replace text => (Settings.ofToml text).toOption
  | override _ => none

def arguments? : Change → Option Arguments
  | replace _ => none
  | override texts => (CommandLine.parse texts).toOption

/-- What a change makes of the settings; one that is refused leaves them as they are. -/
def act (settings : Settings) : Change → Settings
  | replace text =>
      match Settings.ofToml text with
      | .ok replaced => replaced
      | .error _ => settings
  | override texts =>
      match CommandLine.parse texts with
      | .ok arguments => arguments.applyTo settings
      | .error _ => settings

variable {change : Change}

/-- A change replaces the settings, overrides them, or does nothing. -/
theorem act_cases (change : Change) (settings : Settings) :
    (∃ replaced, change.replacement? = some replaced ∧ replaced.IsPositive ∧
        change.act settings = replaced) ∨
      (change.replacement? = none ∧ ∃ arguments, change.arguments? = some arguments ∧
        (∀ number ∈ arguments.timeout, 1 ≤ number) ∧
        change.act settings = arguments.applyTo settings) ∨
      (change.replacement? = none ∧ change.arguments? = none ∧
        change.act settings = settings) := by
  cases change with
  | replace text =>
      cases read : Settings.ofToml text with
      | ok replaced =>
          left
          have positive := Settings.isPositive_of_ofToml read
          exact ⟨replaced, by simp [replacement?, read, Except.toOption], positive,
            by simp [act, read]⟩
      | error failure =>
          right
          right
          exact ⟨by simp [replacement?, read, Except.toOption], rfl, by simp [act, read]⟩
  | override texts =>
      right
      cases read : CommandLine.parse texts with
      | ok arguments =>
          left
          have positive := CommandLine.timeout_of_parse read
          exact ⟨rfl, arguments, by simp [arguments?, read, Except.toOption], positive,
            by simp [act, read]⟩
      | error failure =>
          right
          exact ⟨rfl, by simp [arguments?, read, Except.toOption], by simp [act, read]⟩

end Change

theorem Settings.IsPositive.applyTo {settings : Settings} (positive : settings.IsPositive)
    {arguments : Arguments} (deadlines : ∀ number ∈ arguments.timeout, 1 ≤ number) :
    (arguments.applyTo settings).IsPositive := by
  obtain ⟨crl, ocsp, size⟩ := positive
  cases given : arguments.timeout with
  | none =>
      constructor
      · simpa [Arguments.applyTo, given] using crl
      · simpa [Arguments.applyTo, given] using ocsp
      · exact size
  | some number =>
      have deadline := deadlines number given
      constructor
      · simpa [Arguments.applyTo, given] using deadline
      · simpa [Arguments.applyTo, given] using deadline
      · exact size

theorem Settings.IsPositive.act {settings : Settings} (positive : settings.IsPositive)
    (change : Change) : (change.act settings).IsPositive := by
  obtain ⟨replaced, -, valid, acted⟩ | ⟨-, arguments, -, deadlines, acted⟩ | ⟨-, -, acted⟩ :=
    change.act_cases settings
  · rw [acted]
    exact valid
  · rw [acted]
    exact positive.applyTo deadlines
  · rw [acted]
    exact positive

/-! ## Runs of changes -/

/-- Settings under command lines: a channel is asked unless one of them skips it, the last
deadline holds for both channels, and the rest is left alone. -/
structure Settings.IsOverridden (settings base : Settings) (lines : List Arguments) : Prop where
  checkCrl : settings.revocation.checkCrl = true ↔
    base.revocation.checkCrl = true ∧ ∀ arguments ∈ lines, arguments.skipCrl = false
  checkOcsp : settings.revocation.checkOcsp = true ↔
    base.revocation.checkOcsp = true ∧ ∀ arguments ∈ lines, arguments.skipOcsp = false
  crlTimeout : settings.revocation.crlTimeout =
    ((lines.filterMap Arguments.timeout).getLast?).getD base.revocation.crlTimeout
  ocspTimeout : settings.revocation.ocspTimeout =
    ((lines.filterMap Arguments.timeout).getLast?).getD base.revocation.ocspTimeout
  maxCrlBytes : settings.revocation.maxCrlBytes = base.revocation.maxCrlBytes
  trust : settings.trust = base.trust

namespace Settings

variable {settings base : Settings} {lines : List Arguments}

theorem isOverridden_nil (settings : Settings) : settings.IsOverridden settings [] := by
  constructor
  all_goals simp

theorem filterMap_concat {item result : Type} (function : item → Option result)
    (items : List item) (last : item) :
    (items ++ [last]).filterMap function = items.filterMap function ++ (function last).toList := by
  cases given : function last with
  | none => simp [given]
  | some value => simp [given]

theorem getLast?_concat_toList (numbers : List Nat) (number : Option Nat) (otherwise : Nat) :
    ((numbers ++ number.toList).getLast?).getD otherwise =
      number.getD (numbers.getLast?.getD otherwise) := by
  cases number with
  | none => simp
  | some number => simp

theorem IsOverridden.applyTo (overridden : settings.IsOverridden base lines)
    (arguments : Arguments) :
    (arguments.applyTo settings).IsOverridden base (lines ++ [arguments]) := by
  have deadlines : (lines ++ [arguments]).filterMap Arguments.timeout =
      lines.filterMap Arguments.timeout ++ arguments.timeout.toList :=
    filterMap_concat Arguments.timeout lines arguments
  constructor
  · simp only [Arguments.applyTo, Bool.and_eq_true, Bool.not_eq_true', overridden.checkCrl,
      List.forall_mem_append, List.forall_mem_singleton, and_assoc]
  · simp only [Arguments.applyTo, Bool.and_eq_true, Bool.not_eq_true', overridden.checkOcsp,
      List.forall_mem_append, List.forall_mem_singleton, and_assoc]
  · rw [deadlines, getLast?_concat_toList, ← overridden.crlTimeout]
    rfl
  · rw [deadlines, getLast?_concat_toList, ← overridden.ocspTimeout]
    rfl
  · exact overridden.maxCrlBytes
  · exact overridden.trust

/-- What changes make of the defaults. -/
def after (changes : List Change) : Settings := changes.foldl Change.act {}

theorem after_concat (changes : List Change) (change : Change) :
    after (changes ++ [change]) = change.act (after changes) := by
  simp [after]

end Settings

namespace Change

variable {changes : List Change} {change : Change}

/-- The last settings that were put in place of all others; the defaults if none were. -/
def base (changes : List Change) : Settings :=
  ((changes.filterMap replacement?).getLast?).getD {}

/-- The command lines that were accepted behind the last such settings. -/
def since (changes : List Change) : List Arguments :=
  (changes.rtakeWhile fun change => change.replacement?.isNone).filterMap arguments?

theorem base_concat (changes : List Change) (change : Change) :
    base (changes ++ [change]) = change.replacement?.getD (base changes) := by
  unfold base
  cases replaced : change.replacement? with
  | none => simp [replaced]
  | some settings => simp [replaced]

theorem since_concat_of_some {settings : Settings}
    (replaced : change.replacement? = some settings) :
    since (changes ++ [change]) = [] := by
  rw [since, List.rtakeWhile_concat_neg _ _ _ (by simp [replaced])]
  rfl

theorem since_concat_of_none (kept : change.replacement? = none) :
    since (changes ++ [change]) = since changes ++ change.arguments?.toList := by
  rw [since, List.rtakeWhile_concat_pos _ _ _ (by simp [kept]), Settings.filterMap_concat]
  rfl

end Change

namespace Settings

open Change

theorem isPositive_after (changes : List Change) : (after changes).IsPositive := by
  induction changes using List.reverseRecOn with
  | nil => exact isPositive_default
  | append_singleton changes change ih =>
      rw [after_concat]
      exact ih.act change

theorem isOverridden_after (changes : List Change) :
    (after changes).IsOverridden (base changes) (since changes) := by
  induction changes using List.reverseRecOn with
  | nil => exact isOverridden_nil {}
  | append_singleton changes change ih =>
      rw [after_concat, base_concat]
      obtain ⟨settings, replaced, -, acted⟩ | ⟨kept, arguments, given, -, acted⟩ |
        ⟨kept, ungiven, acted⟩ := change.act_cases (after changes)
      · rw [acted, replaced, since_concat_of_some replaced]
        exact isOverridden_nil settings
      · rw [acted, kept, since_concat_of_none kept, given]
        exact ih.applyTo arguments
      · rw [acted, kept, since_concat_of_none kept, ungiven]
        simpa using ih

/-- After every change the numbers are positive; a text or a command line that is refused
leaves the settings as they are; and the settings are the last that replaced all others,
under the command lines behind them. -/
theorem settings_after_changes (changes : List Change) :
    (∀ count, (after (changes.take count)).IsPositive) ∧
      (∀ text failure, ofToml text = .error failure →
        after (changes ++ [.replace text]) = after changes) ∧
      (∀ texts failure, CommandLine.parse texts = .error failure →
        after (changes ++ [.override texts]) = after changes) ∧
      (after changes).IsOverridden (base changes) (since changes) := by
  refine ⟨fun count => isPositive_after _, ?_, ?_, isOverridden_after changes⟩
  · intro text failure refused
    simp [after_concat, act, refused]
  · intro texts failure refused
    simp [after_concat, act, refused]

/-- A text that switches one channel off, between command lines. -/
def sampleChanges : List Change :=
  [.override ["tls.crt", "--skip-crl", "--timeout", "3"],
    .replace "[revocation]\ncheck_ocsp = false\nocsp_timeout_secs = 2\n",
    .override ["--timeout=7", "tls.crt"]]

theorem settings_after_sample :
    CommandLine.parse ["tls.crt", "--timeout", "0"] = .error .valueValidation ∧
      ofToml "[revocation]\nmax_crl_bytes = 0\n" =
        .error (notPositive "revocation.max_crl_bytes") ∧
      after (sampleChanges ++ [.override ["tls.crt", "--timeout", "0"]]) = after sampleChanges ∧
      after (sampleChanges ++ [.replace "[revocation]\nmax_crl_bytes = 0\n"]) =
        after sampleChanges ∧
      (after sampleChanges).revocation.crlTimeout = 7 ∧
      (after sampleChanges).revocation.ocspTimeout = 7 ∧
      (after sampleChanges).revocation.checkCrl = true ∧
      (after sampleChanges).revocation.checkOcsp = false := by
  have line : CommandLine.parse ["tls.crt", "--timeout", "0"] = .error .valueValidation := by
    decide +kernel
  have text : ofToml "[revocation]\nmax_crl_bytes = 0\n" =
      .error (notPositive "revocation.max_crl_bytes") := by
    decide +kernel
  obtain ⟨-, refusedText, refusedLine, overridden⟩ := settings_after_changes sampleChanges
  refine ⟨line, text, refusedLine _ _ line, refusedText _ _ text, ?_, ?_, ?_, ?_⟩
  · rw [overridden.crlTimeout]
    decide +kernel
  · rw [overridden.ocspTimeout]
    decide +kernel
  · rw [overridden.checkCrl]
    decide +kernel
  · rw [Bool.eq_false_iff, ne_eq, overridden.checkOcsp]
    decide +kernel

end Settings

end CertScope
