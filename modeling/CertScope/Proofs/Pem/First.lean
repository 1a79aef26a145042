import CertScope.Proofs.Pem.Size
import CertScope.Proofs.Pem.Written

/-!
# The first certificate

Where a single certificate is expected, it may come as text or encoded.  A text stands for the
certificate that is written in it; anything without a certificate block stands for itself.
-/

namespace CertScope.Pem

variable {bytes contents text : Bytes}

/-- A byte string is taken for the first certificate exactly when no block in it holds one. -/
theorem firstCertificate_eq_self : firstCertificate bytes = bytes ↔ certificates bytes = [] := by
  unfold firstCertificate
  cases found : certificates bytes with
  | nil => simp
  | cons first others =>
      have member : first ∈ certificates bytes := by
        rw [found]
        exact List.mem_cons_self
      have shorter := length_of_mem_certificates member
      constructor
      · intro same
        have equal : first = bytes := same
        rw [equal] at shorter
        exact absurd shorter (Nat.lt_irrefl _)
      · intro empty
        cases empty

/-- A certificate is written in the text, and no block opens in front of it. -/
def IsTextOf (contents text : Bytes) : Prop :=
  ∃ (filler : Bytes) (written : WrittenCertificate) (back : Bytes),
    ¬ beginMarker <:+: filler ∧ written.contents = contents ∧
      text = filler ++ (written.block.text ++ back)

theorem IsTextOf.certificates (isText : IsTextOf contents text) :
    (Pem.certificates text).head? = some contents := by
  obtain ⟨filler, written, back, unopened, rfl, rfl⟩ := isText
  have step := spans_of_some (written.block.nextSpan?_text unopened back)
  have held : certificateOf? written.block.text = some written.contents := by
    rw [FramedBlock.certificateOf?_text, written.certificate?_block]
  rw [Pem.certificates, step, Option.toList_some, List.singleton_append,
    List.filterMap_cons_some held, List.head?_cons]

theorem IsTextOf.firstCertificate (isText : IsTextOf contents text) :
    Pem.firstCertificate text = contents := by
  rw [Pem.firstCertificate, List.headD_eq_head?_getD, isText.certificates, Option.getD_some]

theorem certificates_of_unopened (absent : ¬ beginMarker <:+: text) :
    Pem.certificates text = [] :=
  certificates_of_none (nextSpan?_of_unopened absent)

theorem IsTextOf.ne_nil (isText : IsTextOf contents text) : text ≠ [] := by
  rintro rfl
  have found := isText.certificates
  rw [certificates_of_unopened (by decide)] at found
  cases found

/-- The lines of sixty-four symbols that a body is broken into. -/
theorem exists_lines (symbols : Bytes) :
    ∃ lines : List BodyLine, lines.flatMap BodyLine.symbols = symbols ∧
      lines.flatMap BodyLine.text = (bodyLines symbols).flatMap (· ++ [10]) := by
  fun_induction bodyLines symbols with
  | case1 symbols short empty =>
      refine ⟨[], ?_, rfl⟩
      rw [List.isEmpty_iff.1 empty]
      rfl
  | case2 symbols short filled =>
      have nonempty : symbols ≠ [] := by simpa using filled
      exact ⟨[⟨symbols, [10], nonempty, isLineBreak_feed⟩], by simp, by simp [BodyLine.text]⟩
  | case3 symbols long ih =>
      obtain ⟨lines, spelled, broken⟩ := ih
      have nonempty : symbols.take 64 ≠ [] := by
        apply List.ne_nil_of_length_pos
        rw [List.length_take]
        omega
      refine ⟨⟨symbols.take 64, [10], nonempty, isLineBreak_feed⟩ :: lines, ?_, ?_⟩
      · rw [List.flatMap_cons, spelled, List.take_append_drop]
      · rw [List.flatMap_cons, broken, List.flatMap_cons]
        rfl

/-- The text that an encoder makes of a certificate. -/
theorem isTextOf_encode (contents : Bytes) :
    IsTextOf contents (Block.encode ⟨certificateLabel, contents⟩) := by
  obtain ⟨lines, spelled, broken⟩ := exists_lines (Base64.encode contents)
  let written : WrittenCertificate := ⟨contents, [10], isLineBreak_feed, lines, spelled⟩
  refine ⟨[], written, [10], by decide, rfl, ?_⟩
  have body : written.block.body = (bodyLines (Base64.encode contents)).flatMap (· ++ [10]) :=
    broken
  rw [List.nil_append, FramedBlock.text_append, body]
  simp only [Block.encode, List.append_assoc]
  rfl

end CertScope.Pem
