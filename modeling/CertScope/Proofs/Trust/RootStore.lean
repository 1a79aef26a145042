import CertScope.Proofs.Pem.Readers
import CertScope.Trust.SystemRoots

/-!
# Where the roots of a store come from

A store begins with the roots that settings describe, and grows by calls that add
certificates.  Every call puts some anchors behind those that are there and touches none
of them, and what it answers tells which: the step is said once for all calls, and a run of
calls adds what its steps add.  A text adds the blocks that its reader finds, and these are
all blocks of a layout in which no filler ends in the midst of an opening marker.
-/

namespace CertScope.RootStore

open Pem (Layout)

/-! ## Calls -/

/-- A call that adds certificates to a store. -/
inductive Addition where
  | der (encoding : Bytes)
  | pem (text : Bytes)

/-- What a call answers: that it is done, or the number of roots it has added. -/
inductive Answer where
  | der (outcome : Except PathError Unit)
  | pem (outcome : Except RootError Nat)

variable {addition : Addition} {answer : Answer} {store : RootStore}
  {added anchors : List TrustAnchor} {ders : List Bytes}

/-- The store behind a call and its answer. -/
def perform (store : RootStore) : Addition → RootStore × Answer
  | .der encoding =>
      match store.addDer encoding with
      | .ok grown => (grown, .der (.ok ()))
      | .error error => (store, .der (.error error))
  | .pem text => ((store.addPem text).1, .pem (store.addPem text).2)

def performAll (store : RootStore) : List Addition → RootStore × List Answer
  | [] => (store, [])
  | addition :: others =>
      let first := store.perform addition
      let rest := first.1.performAll others
      (rest.1, first.2 :: rest.2)

/-- The certificates among decoded blocks, in their order. -/
def certificatesOf (blocks : List Pem.Block) : List Bytes :=
  (blocks.filter (·.label == Pem.certificateLabel)).map Pem.Block.contents

/-- The anchors of certificates, one for each in their order. -/
def AnchorsOf (ders : List Bytes) (anchors : List TrustAnchor) : Prop :=
  List.Forall₂ (fun der anchor => TrustAnchor.ofBytes der = .ok anchor) ders anchors

/-- The roots that a call adds, by what it answers. -/
inductive Adds : Addition → Answer → List TrustAnchor → Prop
  | der {encoding : Bytes} {anchor : TrustAnchor}
      (read : TrustAnchor.ofBytes encoding = .ok anchor) :
      Adds (.der encoding) (.der (.ok ())) [anchor]
  | refusedDer {encoding : Bytes} {error : PathError}
      (refused : TrustAnchor.ofBytes encoding = .error error) :
      Adds (.der encoding) (.der (.error error)) []
  | pem {text : Bytes} {blocks : List Pem.Block} {anchors : List TrustAnchor}
      (decoded : Pem.decodeAll text = .ok blocks)
      (read : AnchorsOf (certificatesOf blocks) anchors) :
      Adds (.pem text) (.pem (.ok anchors.length)) anchors
  | refusedText {text : Bytes} {fault : Pem.Fault} (refused : Pem.decodeAll text = .error fault) :
      Adds (.pem text) (.pem (.error (.text fault))) []
  | refusedBlock {text der : Bytes} {blocks : List Pem.Block} {before after : List Bytes}
      {anchors : List TrustAnchor} {error : PathError}
      (decoded : Pem.decodeAll text = .ok blocks)
      (split : certificatesOf blocks = before ++ der :: after)
      (read : AnchorsOf before anchors)
      (refused : TrustAnchor.ofBytes der = .error error) :
      Adds (.pem text) (.pem (.error (.anchor error))) anchors

theorem anchorsOf_append (read : AnchorsOf ders anchors) (others : List Bytes) :
    anchorsOf (ders ++ others) = (anchors ++ (anchorsOf others).1, (anchorsOf others).2) := by
  induction read with
  | nil => rfl
  | cons first _ ih => simp [anchorsOf, first, ih]

theorem anchorsOf_eq (read : AnchorsOf ders anchors) : anchorsOf ders = (anchors, none) := by
  simpa [anchorsOf] using anchorsOf_append read []

theorem append_nil (store : RootStore) : store.append [] = store := by
  simp [append]

theorem append_append (store : RootStore) (first second : List TrustAnchor) :
    (store.append first).append second = store.append (first ++ second) := by
  simp [append]

/-- A call does what its answer tells. -/
theorem perform_of_adds (store : RootStore) (adds : Adds addition answer added) :
    store.perform addition = (store.append added, answer) := by
  cases adds with
  | der read =>
      simp only [perform, addDer, read]
      rfl
  | refusedDer refused =>
      simp only [perform, addDer, refused, append_nil]
      rfl
  | pem decoded read =>
      have taken := anchorsOf_eq read
      rw [certificatesOf] at taken
      simp only [perform, addPem, decoded, taken]
  | refusedText refused => simp only [perform, addPem, refused, append_nil]
  | @refusedBlock text der blocks before after anchors error decoded split read refused =>
      have taken := anchorsOf_append read (der :: after)
      rw [← split, certificatesOf] at taken
      simp only [anchorsOf, refused, List.append_nil] at taken
      simp only [perform, addPem, decoded, taken]

/-- Every call adds some roots. -/
theorem exists_adds (addition : Addition) : ∃ answer added, Adds addition answer added := by
  cases addition with
  | der encoding =>
      cases read : TrustAnchor.ofBytes encoding with
      | error error => exact ⟨_, _, .refusedDer read⟩
      | ok anchor => exact ⟨_, _, .der read⟩
  | pem text =>
      cases decoded : Pem.decodeAll text with
      | error fault => exact ⟨_, _, .refusedText decoded⟩
      | ok blocks =>
          obtain ⟨before, refused, split, read, outcome⟩ := anchorsOf_spec (certificatesOf blocks)
          obtain ⟨rfl, -⟩ | ⟨der, after, error, rfl, unread, -⟩ := outcome
          · obtain rfl := split.trans (List.append_nil before)
            exact ⟨_, _, .pem decoded read⟩
          · exact ⟨_, _, .refusedBlock decoded split read unread⟩

/-- What a call answers and adds depends on the call alone. -/
theorem Adds.unique {other : Answer} (adds : Adds addition answer added)
    (again : Adds addition other anchors) : answer = other ∧ added = anchors := by
  obtain ⟨grown, told⟩ :=
    Prod.mk.inj ((perform_of_adds empty adds).symm.trans (perform_of_adds empty again))
  exact ⟨told, List.append_cancel_left (congrArg RootStore.anchors grown)⟩

/-! ## Texts of blocks -/

/-- The roots that the text of a layout adds, by what is answered: one for each certificate
in its order, up to the first that is refused, and none if there is a block that does not
decode. -/
inductive AddsBlocks (layout : Layout) : Answer → List TrustAnchor → Prop
  | all {anchors : List TrustAnchor} (decodes : layout.Decodes)
      (read : AnchorsOf layout.certificates anchors) :
      AddsBlocks layout (.pem (.ok anchors.length)) anchors
  | undecoded {fault : Pem.Fault} (undecoded : ¬ layout.Decodes) :
      AddsBlocks layout (.pem (.error (.text fault))) []
  | refused {der : Bytes} {before after : List Bytes} {anchors : List TrustAnchor}
      {error : PathError} (decodes : layout.Decodes)
      (split : layout.certificates = before ++ der :: after) (read : AnchorsOf before anchors)
      (refused : TrustAnchor.ofBytes der = .error error) :
      AddsBlocks layout (.pem (.error (.anchor error))) anchors

theorem addsBlocks_of_adds {layout : Layout} (settled : layout.IsSettled)
    (adds : Adds (.pem layout.text) answer added) : AddsBlocks layout answer added := by
  by_cases decodes : layout.Decodes
  · obtain ⟨found, whole, matched⟩ := layout.decodeAll_text decodes settled
    have certificates : certificatesOf found = layout.certificates :=
      layout.certificates_of_decoded matched
    cases adds with
    | pem decoded read =>
        obtain rfl := Except.ok.inj (whole.symm.trans decoded)
        exact .all decodes (certificates ▸ read)
    | refusedText refused => cases whole.symm.trans refused
    | refusedBlock decoded split read refused =>
        obtain rfl := Except.ok.inj (whole.symm.trans decoded)
        exact .refused decodes (certificates.symm.trans split) read refused
  · obtain ⟨fault, failed⟩ := layout.decodeAll_text_of_not_decodes decodes settled
    cases adds with
    | pem decoded read => cases failed.symm.trans decoded
    | refusedText refused => exact .undecoded decodes
    | refusedBlock decoded split read refused => cases failed.symm.trans decoded

/-! ## Runs -/

/-- The roots that calls add, one after the other. -/
inductive AddsAll : List Addition → List Answer → List (List TrustAnchor) → Prop
  | nil : AddsAll [] [] []
  | cons {addition : Addition} {answer : Answer} {added : List TrustAnchor}
      {additions : List Addition} {answers : List Answer} {others : List (List TrustAnchor)}
      (first : Adds addition answer added) (rest : AddsAll additions answers others) :
      AddsAll (addition :: additions) (answer :: answers) (added :: others)

/-- A run puts the roots of its calls behind those of the store. -/
theorem exists_addsAll (store : RootStore) (additions : List Addition) :
    ∃ added, AddsAll additions (store.performAll additions).2 added ∧
      (store.performAll additions).1 = store.append added.flatten := by
  induction additions generalizing store with
  | nil => exact ⟨[], .nil, (append_nil store).symm⟩
  | cons addition additions ih =>
      obtain ⟨answer, first, adds⟩ := exists_adds addition
      have performed := perform_of_adds store adds
      obtain ⟨others, rest, grown⟩ := ih (store.append first)
      refine ⟨first :: others, ?_, ?_⟩
      · simpa only [performAll, performed] using AddsAll.cons adds rest
      · simp only [performAll, performed, grown, append_append, List.flatten_cons]

theorem performAll_append (store : RootStore) (earlier later : List Addition) :
    (store.performAll (earlier ++ later)).1 =
      ((store.performAll earlier).1.performAll later).1 := by
  induction earlier generalizing store with
  | nil => rfl
  | cons addition earlier ih => exact ih _

/-! ## The store that settings describe -/

variable {settings : TrustSettings} {system : SystemRoots} {files : Files}

/-- There are no roots of the system to begin with. -/
def LacksSystem (settings : TrustSettings) (system : SystemRoots) : Prop :=
  settings.useSystemRoots = true → system.anchors = []

/-- What a store begins with: the roots of the system in the order in which they are loaded,
or else those of the bundled program, or else nothing. -/
inductive BeginsWith (settings : TrustSettings) (system : SystemRoots) :
    List TrustAnchor → Prop
  | system (enabled : settings.useSystemRoots = true) (loaded : system.anchors ≠ []) :
      BeginsWith settings system system.anchors
  | bundled (missing : LacksSystem settings system) (enabled : settings.useBundledRoots = true) :
      BeginsWith settings system bundled.anchors
  | nothing (missing : LacksSystem settings system)
      (disabled : settings.useBundledRoots = false) : BeginsWith settings system []

theorem beginsWith_ofSystem : BeginsWith settings system (ofSystem settings system).anchors := by
  unfold ofSystem
  by_cases missing : LacksSystem settings system
  · have lacking :
        (if settings.useSystemRoots = true then ⟨system.anchors⟩ else empty : RootStore) =
          empty := by
      split
      · rename_i enabled
        rw [missing enabled, empty]
      · rfl
    rw [lacking]
    cases bundle : settings.useBundledRoots with
    | true => exact .bundled missing bundle
    | false => exact .nothing missing bundle
  · obtain ⟨enabled, filled⟩ := Classical.not_imp.1 missing
    have kept : (⟨system.anchors⟩ : RootStore).isEmpty = false := by
      simpa [isEmpty] using filled
    simp only [enabled, if_true, kept, Bool.false_and, Bool.false_eq_true, if_false]
    exact .system enabled filled

/-- The roots of the named file, if there is one. -/
inductive HasExtra (settings : TrustSettings) (files : Files) : List TrustAnchor → Prop
  | unnamed (unnamed : settings.extraRoots = none) : HasExtra settings files []
  | file {path : String} {text : Bytes} {count : Nat} {anchors : List TrustAnchor}
      (named : settings.extraRoots = some path) (read : files path = .ok text)
      (adds : Adds (.pem text) (.pem (.ok count)) anchors) : HasExtra settings files anchors

/-- Why settings describe no store: the named file cannot be read, or it is refused. -/
inductive Refuses (settings : TrustSettings) (files : Files) : ConfigError → Prop
  | unreadable {path : String} {why : FileError} (named : settings.extraRoots = some path)
      (unread : files path = .error why) : Refuses settings files (.fileNotFound path)
  | refused {path : String} {text : Bytes} {reason : RootError} {anchors : List TrustAnchor}
      (named : settings.extraRoots = some path) (read : files path = .ok text)
      (adds : Adds (.pem text) (.pem (.error reason)) anchors) :
      Refuses settings files (.invalidValue "trust.extra_roots" reason.message)

/-- A file is added as any text is. -/
theorem addPem_of_adds {text : Bytes} {outcome : Except RootError Nat}
    (adds : Adds (.pem text) (.pem outcome) added) :
    store.addPem text = (store.append added, outcome) := by
  obtain ⟨grown, told⟩ := Prod.mk.inj (perform_of_adds store adds)
  exact Prod.ext grown (Answer.pem.inj told)

theorem exists_adds_pem (text : Bytes) :
    ∃ outcome anchors, Adds (.pem text) (.pem outcome) anchors := by
  obtain ⟨answer, anchors, adds⟩ := exists_adds (.pem text)
  cases adds with
  | pem decoded read => exact ⟨_, _, .pem decoded read⟩
  | refusedText refused => exact ⟨_, _, .refusedText refused⟩
  | refusedBlock decoded split read refused =>
      exact ⟨_, _, .refusedBlock decoded split read refused⟩

theorem ofSettings_of_hasExtra (extra : HasExtra settings files anchors) :
    ofSettings settings system files = .ok ((ofSystem settings system).append anchors) := by
  cases extra with
  | unnamed unnamed => simp only [ofSettings, unnamed, append_nil]
  | file named read adds => simp only [ofSettings, named, read, addPem_of_adds adds]

theorem ofSettings_of_refuses {error : ConfigError} (refuses : Refuses settings files error) :
    ofSettings settings system files = .error error := by
  cases refuses with
  | unreadable named unread => simp only [ofSettings, named, unread]
  | refused named read adds => simp only [ofSettings, named, read, addPem_of_adds adds]

/-- Settings describe a store, or there is a reason why they do not. -/
theorem hasExtra_or_refuses (settings : TrustSettings) (files : Files) :
    (∃ anchors, HasExtra settings files anchors) ∨ ∃ error, Refuses settings files error := by
  cases named : settings.extraRoots with
  | none => exact .inl ⟨_, .unnamed named⟩
  | some path =>
      cases read : files path with
      | error why => exact .inr ⟨_, .unreadable named read⟩
      | ok text =>
          obtain ⟨outcome, anchors, adds⟩ := exists_adds_pem text
          cases outcome with
          | error reason => exact .inr ⟨_, .refused named read adds⟩
          | ok count => exact .inl ⟨_, .file named read adds⟩

/-- Every root of a store is accounted for.  Settings are refused exactly for a named file
that cannot be read or is refused.  A store that they describe holds what it begins with and
behind it the roots of the named file; and whatever calls have been performed on it, those
that follow put the roots that they add behind the ones that are there.  A text in which no
filler ends in the midst of an opening marker adds the certificates of its blocks. -/
theorem roots_of_settings_and_calls (settings : TrustSettings) (system : SystemRoots)
    (files : Files) :
    (∀ error, ofSettings settings system files = .error error ↔ Refuses settings files error) ∧
      (∀ store, ofSettings settings system files = .ok store →
        (∃ base extra, BeginsWith settings system base ∧ HasExtra settings files extra ∧
          store.anchors = base ++ extra) ∧
        ∀ earlier later, ∃ added,
          AddsAll later ((store.performAll earlier).1.performAll later).2 added ∧
          (store.performAll (earlier ++ later)).1.anchors =
            (store.performAll earlier).1.anchors ++ added.flatten) ∧
      ∀ (layout : Layout) (answer : Answer) (added : List TrustAnchor), layout.IsSettled →
        Adds (.pem layout.text) answer added → AddsBlocks layout answer added := by
  have outcome := hasExtra_or_refuses settings files
  refine ⟨fun error => ⟨fun refused => ?_, ofSettings_of_refuses⟩,
    fun store made => ⟨?_, fun earlier later => ?_⟩,
    fun layout answer added => addsBlocks_of_adds⟩
  · obtain ⟨anchors, extra⟩ | ⟨reason, refuses⟩ := outcome
    · rw [ofSettings_of_hasExtra extra] at refused
      cases refused
    · rw [ofSettings_of_refuses refuses] at refused
      obtain rfl := Except.error.inj refused
      exact refuses
  · obtain ⟨anchors, extra⟩ | ⟨reason, refuses⟩ := outcome
    · rw [ofSettings_of_hasExtra extra] at made
      obtain rfl := Except.ok.inj made
      exact ⟨_, anchors, beginsWith_ofSystem, extra, rfl⟩
    · rw [ofSettings_of_refuses refuses] at made
      cases made
  · obtain ⟨added, adds, grown⟩ := exists_addsAll (store.performAll earlier).1 later
    exact ⟨added, adds, by rw [performAll_append, grown, append]⟩

/-! ## Roots of a file -/

def fileSettings : TrustSettings := { extraRoots := some "roots.pem" }

def rootText : Layout := RootSample.twice [32, 10] (by decide)

def rootFiles : Files := fun _ => .ok rootText.text

/-- A certificate that is no root, a root, and a file that could not be read. -/
def oneLoaded : SystemRoots := ⟨[[0], RootSample.der], ["Permission denied (os error 13)"]⟩

def namelessAnchor : TrustAnchor := ⟨[], [], none⟩

theorem anchors_oneLoaded : oneLoaded.anchors = [namelessAnchor] := by
  obtain ⟨error, refused⟩ : ∃ error, TrustAnchor.ofBytes [0] = .error error := ⟨_, rfl⟩
  simp only [SystemRoots.anchors, oneLoaded, List.filterMap_cons, refused, RootSample.ofBytes_der]
  rfl

theorem decodes_rootText : rootText.Decodes := RootSample.decodes_twice _

theorem isSettled_rootText : rootText.IsSettled := by
  intro item member
  simp only [rootText, RootSample.twice, List.mem_cons, List.not_mem_nil, or_false] at member
  rcases member with rfl | rfl
  · decide
  · decide

theorem adds_rootText :
    Adds (.pem rootText.text) (.pem (.ok 2)) [namelessAnchor, namelessAnchor] := by
  obtain ⟨blocks, decoded, matched⟩ := rootText.decodeAll_text decodes_rootText isSettled_rootText
  have certificates : certificatesOf blocks = [RootSample.der, RootSample.der] :=
    (rootText.certificates_of_decoded matched).trans (RootSample.certificates_twice _)
  have read : AnchorsOf (certificatesOf blocks) [namelessAnchor, namelessAnchor] := by
    rw [certificates]
    exact .cons RootSample.ofBytes_der (.cons RootSample.ofBytes_der .nil)
  exact .pem decoded read

theorem eq_of_hasExtra_rootFiles (found : HasExtra fileSettings rootFiles anchors) :
    anchors = [namelessAnchor, namelessAnchor] := by
  cases found with
  | unnamed unnamed => cases unnamed
  | file named read adds =>
      obtain rfl := Except.ok.inj read
      exact (adds.unique adds_rootText).2

theorem ofSettings_rootFiles (system : SystemRoots) :
    ofSettings fileSettings system rootFiles =
      .ok ((ofSystem fileSettings system).append [namelessAnchor, namelessAnchor]) :=
  ofSettings_of_hasExtra (.file rfl rfl adds_rootText)

/-- The roots of a file stand behind a root of the system, or behind the bundled ones where the
system has none; there they stay when a call is refused and another one adds a text. -/
theorem roots_of_rootFiles :
    (∃ store, ofSettings fileSettings oneLoaded rootFiles = .ok store ∧
      store.anchors = [namelessAnchor, namelessAnchor, namelessAnchor] ∧
      (store.performAll [.der [], .pem rootText.text]).1.anchors =
        store.anchors ++ [namelessAnchor, namelessAnchor]) ∧
    ∃ store, ofSettings fileSettings ⟨[[0]], []⟩ rootFiles = .ok store ∧
      store.anchors = bundled.anchors ++ [namelessAnchor, namelessAnchor] := by
  constructor
  · obtain ⟨-, stores, layouts⟩ := roots_of_settings_and_calls fileSettings oneLoaded rootFiles
    have made := ofSettings_rootFiles oneLoaded
    obtain ⟨⟨base, extra, begins, found, whole⟩, grows⟩ := stores _ made
    obtain rfl := eq_of_hasExtra_rootFiles found
    have first : base = [namelessAnchor] := by
      cases begins with
      | system enabled loaded => exact anchors_oneLoaded
      | bundled missing enabled => cases anchors_oneLoaded.symm.trans (missing rfl)
      | nothing missing disabled => cases disabled
    rw [first] at whole
    obtain ⟨added, adds, grown⟩ := grows [] [.der [], .pem rootText.text]
    have gained : added.flatten = [namelessAnchor, namelessAnchor] := by
      cases adds with
      | cons refused rest =>
          cases rest with
          | cons given rest =>
              cases rest
              obtain ⟨-, rfl⟩ := refused.unique (.refusedDer rfl)
              obtain ⟨-, rfl⟩ := given.unique adds_rootText
              rfl
    rw [gained] at grown
    exact ⟨_, made, whole, grown⟩
  · obtain ⟨-, stores, -⟩ := roots_of_settings_and_calls fileSettings ⟨[[0]], []⟩ rootFiles
    have made := ofSettings_rootFiles ⟨[[0]], []⟩
    obtain ⟨⟨base, extra, begins, found, whole⟩, -⟩ := stores _ made
    obtain rfl := eq_of_hasExtra_rootFiles found
    refine ⟨_, made, ?_⟩
    cases begins with
    | system enabled loaded => exact absurd rfl loaded
    | bundled missing enabled => exact whole
    | nothing missing disabled => cases disabled

/-- Of two roots with a hyphen between them, both of which are roots and both of which a
bundle is cut into, a store without roots gains one, and the answer is that there is one. -/
theorem roots_behind_hyphen :
    let layout := RootSample.twice [45] (by decide)
    let settings : TrustSettings := ⟨false, false, none⟩
    layout.Decodes ∧ layout.certificates = [RootSample.der, RootSample.der] ∧
      (∀ der ∈ layout.certificates, TrustAnchor.ofBytes der = .ok namelessAnchor) ∧
      splitBundle layout.text = .ok layout.certificates ∧
      ∃ store, ofSettings settings ⟨[], []⟩ rootFiles = .ok store ∧ store.anchors = [] ∧
        store.performAll [.pem layout.text] = (⟨[namelessAnchor]⟩, [.pem (.ok 1)]) := by
  intro layout settings
  have two : layout.certificates = [RootSample.der, RootSample.der] :=
    RootSample.certificates_twice _
  refine ⟨RootSample.decodes_twice _, two, ?_, ?_, empty, rfl, rfl, ?_⟩
  · intro der member
    rw [two] at member
    obtain rfl : der = RootSample.der := by simpa using member
    exact RootSample.ofBytes_der
  · rw [splitBundle_text, two]
    rfl
  · have seen : certificatesOf [⟨Pem.certificateLabel, RootSample.der⟩] = [RootSample.der] := rfl
    have read : AnchorsOf [RootSample.der] [namelessAnchor] :=
      .cons RootSample.ofBytes_der .nil
    have adds : Adds (.pem layout.text) (.pem (.ok 1)) [namelessAnchor] :=
      .pem (RootSample.decodeAll_twice _ (by decide)) (seen ▸ read)
    simp only [performAll, perform_of_adds empty adds]
    rfl

end CertScope.RootStore
