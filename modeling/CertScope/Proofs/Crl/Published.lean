import CertScope.Proofs.Crl.Check
import CertScope.Proofs.Crl.Encoding
import CertScope.Proofs.Pem.First

/-!
# The published form of a list

A server may send a list as it is encoded, with anything behind it, or in a text of blocks
of which the first with the label of lists holds it.  A walk does not tell these forms
from each other: an encoded list does not begin like a text, and the reader of lists does
not look behind the list.
-/

namespace CertScope.Crl

open X509
open Pem (Block FramedBlock Item Layout WrittenCertificate dashes)

variable {list body : Bytes} {crl : RevocationList} {blocks : List Block}

/-- What every text of blocks begins with. -/
def opening : Bytes := dashes ++ Bytes.ofText "BEGIN"

theorem beginMarker_eq : Pem.beginMarker = opening ++ [32] := by decide +kernel

/-- The forms in which a list is published. -/
inductive Published (list : Bytes) : Bytes → Prop
  | followed (behind : Bytes) : Published list (list ++ behind)
  | text {body : Bytes} {blocks : List Block} (begins : opening <+: body)
      (decoded : Pem.decodeAll body = .ok blocks)
      (first : blocks.find? (·.label = label) = some ⟨label, list⟩) : Published list body

/-! ## Texts -/

/-- The block behind others with other labels is found among the decoded blocks. -/
theorem find?_of_matched {before after : List Item} {item : Item}
    (matched : List.Forall₂ (fun item decoded => item.block.frame.decode = .ok decoded)
      (before ++ item :: after) blocks)
    (held : item.block.frame.decode = .ok ⟨label, list⟩)
    (first : ∀ other ∈ before, ∀ block, other.block.frame.decode = .ok block →
      block.label ≠ label) :
    blocks.find? (·.label = label) = some ⟨label, list⟩ := by
  induction before generalizing blocks with
  | nil =>
      obtain ⟨decoded, others, found, -, rfl⟩ := List.forall₂_cons_left_iff.1 matched
      obtain rfl := Except.ok.inj (found.symm.trans held)
      simp
  | cons other before ih =>
      obtain ⟨decoded, others, found, later, rfl⟩ := List.forall₂_cons_left_iff.1 matched
      have foreign : decoded.label ≠ label := first other List.mem_cons_self decoded found
      rw [List.find?_cons_of_neg (by simpa using foreign)]
      exact ih later fun one member => first one (List.mem_cons_of_mem _ member)

/-- A text whose blocks all decode is a form of the list in the first block with the label of
lists. -/
theorem Published.of_layout {layout : Layout} {before after : List Item} {item : Item}
    (begins : opening <+: layout.text) (decodes : layout.Decodes) (settled : layout.IsSettled)
    (items : layout.items = before ++ item :: after)
    (held : item.block.frame.decode = .ok ⟨label, list⟩)
    (first : ∀ other ∈ before, ∀ block, other.block.frame.decode = .ok block →
      block.label ≠ label) :
    Published list layout.text := by
  obtain ⟨blocks, decoded, matched⟩ := layout.decodeAll_text decodes settled
  rw [items] at matched
  exact .text begins decoded (find?_of_matched matched held first)

/-! ## The text of an encoder -/

theorem ofText_label : Bytes.ofText label = [88, 53, 48, 57, 32, 67, 82, 76] := by
  have listed : label.toList.all (·.toNat < 0x80) = true := by decide
  exact Bytes.ofText_of_lt fun char member =>
    of_decide_eq_true (List.all_eq_true.1 listed char member)

theorem decode_label : Utf8.decode (Bytes.ofText label) = .ok label := by
  rw [ofText_label, Utf8.decode_ascii (by decide)]
  rfl

theorem unopened_nil : ¬ Pem.beginMarker <:+: [] := by decide

theorem unopened_feed : ¬ Pem.beginMarker <:+: [10] := by decide

theorem isSettled_nil : Pem.IsSettled Pem.beginMarker [] := rfl

def listBlock (written : WrittenCertificate) : FramedBlock :=
  { written.block with
    opening := Bytes.ofText label
    closing := Bytes.ofText label
    opening_plain := by
      rw [ofText_label]
      decide
    closing_plain := by
      rw [ofText_label]
      decide }

theorem decode_listBlock (written : WrittenCertificate) :
    (listBlock written).frame.decode = .ok ⟨label, written.contents⟩ := by
  obtain ⟨-, -, -, held⟩ := Pem.Frame.decode_eq_ok_iff.1
    (written.block.certificate?_eq_some.1 written.certificate?_block)
  have named : label ≠ "" := by decide
  exact Pem.Frame.decode_eq_ok_iff.2 ⟨decode_label, decode_label, named, held⟩

/-- The text that an encoder makes of a list is a form of it. -/
theorem Published.of_encode (list : Bytes) :
    Published list (Pem.Block.encode ⟨label, list⟩) := by
  obtain ⟨lines, spelled, broken⟩ := Pem.exists_lines (Base64.encode list)
  let written : WrittenCertificate := ⟨list, [10], Pem.isLineBreak_feed, lines, spelled⟩
  let item : Item := ⟨[], listBlock written, unopened_nil⟩
  let layout : Layout := ⟨[item], [10], unopened_feed⟩
  have held : item.block.frame.decode = .ok ⟨label, list⟩ := decode_listBlock written
  have text : Pem.Block.encode ⟨label, list⟩ = layout.text := by
    have body : (listBlock written).body =
        (Pem.bodyLines (Base64.encode list)).flatMap (· ++ [10]) := broken
    have whole : layout.text = (listBlock written).text ++ [10] := by
      simp [layout, item, Layout.text, Item.text]
    rw [whole, FramedBlock.text_append, body]
    simp only [Pem.Block.encode, List.append_assoc]
    rfl
  have only : ∀ other ∈ layout.items, other = item := by simp [layout]
  rw [text]
  have first : layout.items = [] ++ item :: [] := rfl
  refine Published.of_layout ?_ ?_ ?_ first held (by simp)
  · rw [← text]
    simp only [Pem.Block.encode, beginMarker_eq, List.append_assoc]
    exact List.prefix_append _ _
  · intro other member
    rw [only other member]
    exact ⟨_, held⟩
  · intro other member
    rw [only other member]
    exact isSettled_nil

/-! ## One list -/

theorem encoded_of_text (begins : opening <+: body) (decoded : Pem.decodeAll body = .ok blocks)
    (first : blocks.find? (·.label = label) = some ⟨label, list⟩) : encoded body = list := by
  have taken : (dashes ++ Bytes.ofText "BEGIN").isPrefixOf body = true :=
    List.isPrefixOf_iff_prefix.2 begins
  rw [encoded, if_pos taken, decoded]
  simp only [first]

/-- A header that begins with a hyphen is not that of a sequence, which has another tag. -/
theorem tag_of_hyphen {bytes rest : Bytes} {header : Asn1.Header}
    (headed : Asn1.readHeader (45 :: bytes) = .ok (header, rest)) : header.tag = 13 := by
  simp only [Asn1.readHeader, Outcome.bind_eq_ok, Outcome.pure_eq_ok, Prod.mk.injEq] at headed
  obtain ⟨⟨identifier, left⟩, identified, length, -, rfl, -⟩ := headed
  obtain ⟨rfl, -⟩ := Prod.mk.inj (Except.ok.inj identified)
  rfl

/-- What begins like a text is not the encoding of a list. -/
theorem encoded_eq_self {step : RevocationList × Bytes}
    (read : RevocationList.read body = .ok step) : encoded body = body := by
  have foreign : ¬ (dashes ++ Bytes.ofText "BEGIN").isPrefixOf body = true := by
    rw [List.isPrefixOf_iff_prefix]
    rintro ⟨rest, rfl⟩
    obtain ⟨header, contents, headed, -, typed, -⟩ := readContainer_eq_ok.1 read
    rw [tag_of_hyphen headed] at typed
    exact absurd typed (by decide)
  rw [encoded, if_neg foreign]

/-- The same list is read from every form in which it is published. -/
theorem Published.exists_read (published : Published list body)
    (read : RevocationList.read list = .ok (crl, [])) :
    ∃ behind, RevocationList.read (encoded body) = .ok (crl, behind) := by
  cases published with
  | followed behind =>
      have whole := (readContainer_takesFront _ _).append read behind
      refine ⟨behind, ?_⟩
      rw [encoded_eq_self whole]
      exact whole
  | text begins decoded first =>
      refine ⟨[], ?_⟩
      rw [encoded_of_text begins decoded first, read]

/-! ## The walk -/

/-- Two answers that are the same, or deliver forms of the same list after the same time. -/
inductive SameList : Answer → Answer → Prop
  | same (answer : Answer) : SameList answer answer
  | published {delay : Nat} {list first second : Bytes} {crl : RevocationList}
      (read : RevocationList.read list = .ok (crl, [])) (firstForm : Published list first)
      (secondForm : Published list second) :
      SameList (.after delay (.ok first)) (.after delay (.ok second))

variable {serial : Bytes} {now : Instant} {watch : Watch} {first second : Transport}

theorem isListed_of_published {url : Url} (read : RevocationList.read list = .ok (crl, []))
    (published : Published list body) :
    isListed url serial now body = .ok (crl.revokes serial now) := by
  obtain ⟨behind, again⟩ := published.exists_read read
  rw [isListed, again]

/-- Bodies that are there after the same time are fetched, or missed, in the same way. -/
theorem fetch_of_bodies (watch : Watch) (start : Nat) {request : Request} {delay : Nat}
    {firstBody secondBody : Bytes}
    (firstAnswer : first request = .after delay (.ok firstBody))
    (secondAnswer : second request = .after delay (.ok secondBody)) :
    ∃ requests time value otherValue,
      watch.fetch first request start = ⟨value, requests, time⟩ ∧
      watch.fetch second request start = ⟨otherValue, requests, time⟩ ∧
      (value = otherValue ∨ value = .ok firstBody ∧ otherValue = .ok secondBody) := by
  simp only [Watch.fetch, firstAnswer, secondAnswer, Watch.settle]
  by_cases fired : watch.hasFired start = true
  · simp [fired]
  by_cases inTime : delay ≤ watch.timeout
  · simp only [fired, inTime, if_true, Bool.false_eq_true, if_false]
    cases watch.cancelAt with
    | none => exact ⟨_, _, _, _, rfl, rfl, .inr ⟨rfl, rfl⟩⟩
    | some cancelled =>
        by_cases sooner : cancelled ≤ start + delay
        · simp [sooner]
        · simp [sooner]
  · simp only [fired, inTime, Bool.false_eq_true, if_false]
    exact ⟨_, _, _, _, rfl, rfl, .inl rfl⟩

theorem query_congr {url : Url} {start : Nat}
    (same : SameList (first (.crl url.text)) (second (.crl url.text))) :
    query serial now first watch url start = query serial now second watch url start := by
  generalize firstAnswer : first (.crl url.text) = answer at same
  generalize secondAnswer : second (.crl url.text) = otherAnswer at same
  cases same with
  | same answer => simp only [query, Watch.fetch, firstAnswer, secondAnswer]
  | published read firstForm secondForm =>
      obtain ⟨requests, time, value, otherValue, fetched, alsoFetched, equal | delivered⟩ :=
        fetch_of_bodies watch start firstAnswer secondAnswer
      · simp only [query, fetched, alsoFetched, equal]
      · simp only [query, fetched, alsoFetched, delivered, isListed_of_published read firstForm,
          isListed_of_published read secondForm]

/-- The walk makes the same steps over servers that publish the same lists. -/
theorem walk_congr (same : ∀ request, SameList (first request) (second request)) (asked : Bool)
    (start : Nat) (points : List String) :
    walk serial now first watch asked start points =
      walk serial now second watch asked start points := by
  induction points generalizing asked start with
  | nil => rfl
  | cons point points ih =>
      simp only [walk, query_congr (same _), ih]

/-- The published form of a list does not matter.  A text whose blocks all decode, and in which
no filler ends in the midst of an opening marker, is a form of the list in the first of them with
the label of lists.  Servers that publish the same lists, each in some form, give a leaf the same
status after the same requests. -/
theorem published_forms_agree (leaf : Certificate) (now : Instant) (watch : Watch) :
    (∀ (list : Bytes) (layout : Layout) (before after : List Item) (item : Item),
      opening <+: layout.text → layout.Decodes → layout.IsSettled →
      layout.items = before ++ item :: after →
      item.block.frame.decode = .ok ⟨label, list⟩ →
      (∀ other ∈ before, ∀ block, other.block.frame.decode = .ok block → block.label ≠ label) →
      Published list layout.text) ∧
    ∀ first second : Transport,
      (∀ request, SameList (first request) (second request)) →
      checkCrl leaf now first watch = checkCrl leaf now second watch := by
  refine ⟨fun list layout before after item begins decodes settled items held foreign =>
    Published.of_layout begins decodes settled items held foreign, ?_⟩
  intro first second same
  unfold checkCrl
  cases leaf.crlDistributionPoints with
  | nil => rfl
  | cons point points => exact walk_congr same false 0 (point :: points)

def sample : Bytes := (Encoding.listOf [Encoding.sooner]).encode

def sampleLine : WrittenCertificate where
  contents := sample
  lineBreak := [10]
  isLineBreak := Pem.isLineBreak_feed
  lines := [⟨Base64.encode sample, [10], by decide +kernel, Pem.isLineBreak_feed⟩]
  spells := by simp

/-- A block that is no list stands in front of the list. -/
def sampleText : Layout where
  items :=
    [⟨[], sampleLine.block, unopened_nil⟩, ⟨[10], listBlock sampleLine, unopened_feed⟩]
  ending := [10]
  unopened := unopened_feed

theorem decode_sampleLine :
    sampleLine.block.frame.decode = .ok ⟨Pem.certificateLabel, sample⟩ :=
  sampleLine.block.certificate?_eq_some.1 sampleLine.certificate?_block

/-- Two servers that send the list in different forms. -/
def mixedForms : Transport
  | .crl "ldap:x" => .after 0 (.ok sampleText.text)
  | _ => .after 0 (.ok (sample ++ [0xFF]))

/-- A leaf with a point at each server is valid before the list names it, as it is when both
send the list without anything else. -/
theorem published_forms_agree_sample :
    let leaf := pointed ["ldap:x", "ldap:y"]
    let now := Instant.ofSeconds 1546300800
    Published sample sampleText.text ∧
      checkCrl leaf now mixedForms ⟨5000, none⟩ =
        checkCrl leaf now (fun _ => .after 0 (.ok sample)) ⟨5000, none⟩ ∧
      (checkCrl leaf now (fun _ => .after 0 (.ok sample)) ⟨5000, none⟩).value = .valid := by
  intro leaf now
  have fits : Asn1.Fits sample := by decide +kernel
  obtain ⟨issuer, reads⟩ := Encoding.SignedList.read_encode fits
  have read := (reads [] _ []).2 ⟨Encoding.isReadable_listOf (by decide +kernel), rfl, rfl⟩
  rw [List.append_nil] at read
  obtain ⟨texts, agree⟩ := published_forms_agree leaf now ⟨5000, none⟩
  have text : Published sample sampleText.text := by
    refine texts sample sampleText [_] [] _ ?_ ?_ ?_ rfl (decode_listBlock sampleLine) ?_
    · exact List.isPrefixOf_iff_prefix.1 (by decide +kernel)
    · intro item member
      obtain rfl | rfl : item = _ ∨ item = _ := by simpa [sampleText] using member
      · exact ⟨_, decode_sampleLine⟩
      · exact ⟨_, decode_listBlock sampleLine⟩
    · intro item member
      obtain rfl | rfl : item = _ ∨ item = _ := by simpa [sampleText] using member
      · exact isSettled_nil
      · exact (by decide : Pem.IsSettled Pem.beginMarker [10])
    · intro other member block decoded
      obtain rfl : other = _ := by simpa using member
      obtain rfl := Except.ok.inj (decode_sampleLine.symm.trans decoded)
      exact (by decide : Pem.certificateLabel ≠ label)
  have same (request : Request) :
      SameList (mixedForms request) (.after 0 (.ok sample)) := by
    have plain : Published sample (sample ++ []) := .followed []
    rw [List.append_nil] at plain
    unfold mixedForms
    split
    · exact .published read text plain
    · exact .published read (.followed [0xFF]) plain
  exact ⟨text, agree _ _ same, by decide +kernel⟩

/-! ## A list behind a hyphen -/

/-- Both blocks of the text decode, but a hyphen stands in front of the list. -/
def hiddenText : Layout where
  items := [⟨[], sampleLine.block, unopened_nil⟩, ⟨[45], listBlock sampleLine, by decide⟩]
  ending := [10]
  unopened := unopened_feed

theorem decodes_hiddenText : hiddenText.Decodes := by
  intro item member
  obtain rfl | rfl : item = _ ∨ item = _ := by simpa [hiddenText] using member
  · exact ⟨_, decode_sampleLine⟩
  · exact ⟨_, decode_listBlock sampleLine⟩

/-- A list that is read with nothing left over gives a leaf its status when it is sent as it is
encoded, and none when it is sent in a text with a hyphen in front of its block. -/
theorem status_behind_hyphen :
    opening <+: hiddenText.text ∧ hiddenText.Decodes ∧
      (∃ first second, hiddenText.items = [first, second] ∧
        first.block.frame.decode = .ok ⟨Pem.certificateLabel, sample⟩ ∧
        second.block.frame.decode = .ok ⟨label, sample⟩) ∧
      (RevocationList.read sample).toOption.any (fun read => read.2.isEmpty) = true ∧
      (checkCrl (pointed ["ldap:x"]) (.ofSeconds 1546300800) (fun _ => .after 0 (.ok sample))
        ⟨5000, none⟩).value = .valid ∧
      (checkCrl (pointed ["ldap:x"]) (.ofSeconds 1546300800)
        (fun _ => .after 0 (.ok hiddenText.text)) ⟨5000, none⟩).value = .checkFailed
          ("failed to parse CRL from ldap:x: Parsing Error: " ++
            "Der(UnexpectedTag \x7b expected: Some(Tag(16)), actual: Tag(13) \x7d)") := by
  refine ⟨List.isPrefixOf_iff_prefix.1 (by decide +kernel), decodes_hiddenText,
    ⟨_, _, rfl, decode_sampleLine, decode_listBlock sampleLine⟩, ?_, ?_, ?_⟩
  · decide +kernel
  · decide +kernel
  · decide +kernel

end CertScope.Crl
