import SymbolIndex.Library.Convention

/-!
# Callbacks

While a library is at work it calls functions of its caller. A function is passed together with a
context, which the library hands back at each call, or as a block, whose entry point is called
with the block itself. The context says where the running operation keeps its state, and a block
captures it. So either way a call ends at one function and one state.
-/

namespace SymbolIndex

/-- A function that a running operation lets a library call. It answers, and may change the state
that the operation keeps. -/
abbrev Routine (α S β : Type) := α → S → β × S

/-- Where a running operation keeps its state. A library can only hand it back. -/
inductive Context where
  | running

/-- What a block holds behind its entry point. -/
structure Capture where
  context : Context

/-- A block. Its entry point is called with what the block holds behind it. -/
structure Block (α S β : Type) where
  invoke : Capture → Routine α S β
  capture : Capture

/-- What a library is given to call. -/
inductive Callback (α S β : Type) where
  | block (b : Block α S β)
  | function (context : Context) (f : Context → Routine α S β)

namespace Callback

variable {α S β : Type}

/-- A call by the library. -/
def call : Callback α S β → Routine α S β
  | block b => b.invoke b.capture
  | function context f => f context

/-- The function that is called with a context. -/
def onContext (h : Routine α S β) : Context → Routine α S β
  | .running => h

/-- The entry point of a block. It goes on with the context that the block has captured. -/
def onBlock (h : Routine α S β) (capture : Capture) : Routine α S β :=
  onContext h capture.context

end Callback

/-- How a routine is passed to a library. -/
def Convention.callback {α S β : Type} (h : Routine α S β) : Convention → Callback α S β
  | .closure => .block ⟨Callback.onBlock h, ⟨.running⟩⟩
  | .contextPointer => .function .running (Callback.onContext h)

/-- A call ends at the routine, by either convention. -/
@[simp]
theorem Convention.call_callback {α S β : Type} (c : Convention) (h : Routine α S β) :
  (c.callback h).call = h
  := by
  cases c
  · rfl
  · rfl

end SymbolIndex
