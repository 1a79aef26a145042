import CertScope.Pem

/-!
# Certificate bundles

A bundle is a text in which certificate blocks stand among anything else.
Blocks are cut out one at a time, so that a block which cannot be decoded never
hides its neighbours: an opening line inside a block that has not ended starts
a new block, and the cut goes on behind every closing line.
-/

namespace CertScope.Pem

def certificateLabel : String := "CERTIFICATE"

/-- The end of a block whose closing line starts at `fromEnd`: the rest of that
line up to its dashes, and what stands behind them. A closing line without
dashes takes all that is left. -/
def closeSpan (fromEnd : Bytes) : Bytes × Bytes :=
  match Bytes.breakOn? dashes (fromEnd.drop endMarker.length) with
  | some (label, rest) => (endMarker ++ label ++ dashes, rest.drop dashes.length)
  | none => (fromEnd, [])

/-- One step of the cut: a block found or none, and the text still to be cut. -/
def nextSpan? (bytes : Bytes) : Option (Option Bytes × Bytes) :=
  match Bytes.breakOn? beginMarker bytes with
  | none => none
  | some (_, block) =>
      match Bytes.breakOn? endMarker block with
      | none => none
      | some (upToEnd, fromEnd) =>
          match Bytes.breakOn? beginMarker (upToEnd.drop beginMarker.length) with
          | some (_, inner) => some (none, inner ++ fromEnd)
          | none => some (some (upToEnd ++ (closeSpan fromEnd).1), (closeSpan fromEnd).2)

theorem length_closeSpan {fromEnd : Bytes} (begins : endMarker.isPrefixOf fromEnd) :
    (closeSpan fromEnd).2.length < fromEnd.length := by
  have long : endMarker.length ≤ fromEnd.length :=
    (List.isPrefixOf_iff_prefix.1 begins).length_le
  have nine : endMarker.length = 9 := rfl
  unfold closeSpan
  split
  · rename_i label rest found
    have whole := congrArg List.length (Bytes.breakOn?_append found)
    simp only [List.length_append, List.length_drop] at whole ⊢
    omega
  · simp only [List.length_nil]
    omega

theorem length_nextSpan? {bytes rest : Bytes} {span : Option Bytes}
    (step : nextSpan? bytes = some (span, rest)) : rest.length < bytes.length := by
  have eleven : beginMarker.length = 11 := rfl
  unfold nextSpan? at step
  split at step
  · simp at step
  · rename_i before block opened
    have whole := congrArg List.length (Bytes.breakOn?_append opened)
    split at step
    · simp at step
    · rename_i upToEnd fromEnd ended
      have parts := congrArg List.length (Bytes.breakOn?_append ended)
      simp only [List.length_append] at whole parts
      split at step
      · rename_i skipped inner found
        obtain ⟨-, rfl⟩ := Prod.mk.inj (Option.some.inj step)
        have again := congrArg List.length (Bytes.breakOn?_append found)
        have begins := (List.isPrefixOf_iff_prefix.1 (Bytes.breakOn?_isPrefixOf found)).length_le
        simp only [List.length_append, List.length_drop] at again ⊢
        omega
      · obtain ⟨-, rfl⟩ := Prod.mk.inj (Option.some.inj step)
        have shorter := length_closeSpan (Bytes.breakOn?_isPrefixOf ended)
        omega

/-- The blocks of a bundle, each from its opening line through the dashes of
its closing line, in order. -/
def spans (bytes : Bytes) : List Bytes :=
  match _step : nextSpan? bytes with
  | none => []
  | some (span, rest) => span.toList ++ spans rest
termination_by bytes.length
decreasing_by exact length_nextSpan? _step

def certificateOf? (span : Bytes) : Option Bytes :=
  match decodeFirst span with
  | .ok block => if block.label = certificateLabel then some block.contents else none
  | .error _ => none

def certificates (bytes : Bytes) : List Bytes := (spans bytes).filterMap certificateOf?

/-- The contents of the first certificate block; a text without one is taken
for the certificate itself. -/
def firstCertificate (bytes : Bytes) : Bytes := (certificates bytes).headD bytes

end CertScope.Pem
