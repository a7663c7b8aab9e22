import Switchboard.Layer

/-!
# Embeddings

A device type may hold another one as a part. An embedding says how to look at the part and how to
put a changed part back, by the three laws of such a pair. What is written for the part can then be
lifted to the whole: it changes the part and nothing else.
-/

namespace Switchboard

/-- A part `β` of a whole `δ`. -/
structure Embedding (δ β : Type) where
  view : δ → β
  put : β → δ → δ
  view_put : ∀ part whole, view (put part whole) = part
  put_view : ∀ whole, put (view whole) whole = whole
  put_put : ∀ part part' whole, put part (put part' whole) = put part whole

namespace Embedding

variable {δ β γ : Type}

/-- A part of a part. -/
def trans (outer : Embedding δ β) (inner : Embedding β γ) : Embedding δ γ where
  view whole := inner.view (outer.view whole)
  put part whole := outer.put (inner.put part (outer.view whole)) whole
  view_put part whole := by rw [outer.view_put, inner.view_put]
  put_view whole := by rw [inner.put_view, outer.put_view]
  put_put part part' whole := by rw [outer.view_put, outer.put_put, inner.put_put]

/-- A call on the part as a call on the whole. -/
def liftCall (e : Embedding δ β) (whole : δ) (call : Call β) : Call δ :=
  { call with device := e.put call.device whole }

/-- The rest of a call on the part, lifted to the whole. -/
def lift (e : Embedding δ β) (rest : Rest β) : Rest δ :=
  fun arguments whole => e.liftCall whole (rest arguments (e.view whole))

end Embedding

end Switchboard
