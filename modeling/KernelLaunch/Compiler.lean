import KernelLaunch.Grid.Mapping
import KernelLaunch.Platform
import KernelLaunch.Tensor.Shape

/-!
# Kernel compilers

The compiler of kernels stands outside this library. It is a function that
answers requests and may remember what it was asked before, so that its answer
to a request can depend on all requests before it.
-/

namespace KernelLaunch

/-- What a kernel module writes out as its bytecode. -/
structure Emission where
  /-- The bytes in the pieces they are written in. -/
  pieces : List (List UInt8)
  /-- The fault that ends the writing early, if there is one. -/
  fault : Option String := none
  deriving DecidableEq

/-- The bytecode, which is all pieces together. Nothing is left of it after a
fault. -/
def Emission.bytes (emission : Emission) : Except LoweringError (List UInt8) :=
  match emission.fault with
  | none => .ok emission.pieces.flatten
  | some fault => .error (.unwritableModule fault)

/-- A compiled kernel. It is known by what it writes and by how it lists itself: writing
the bytecode and listing the kernel are taken to have no effect on each other, nor on the
compiler. So both may be asked for in any order, or not at all. -/
structure KernelModule where
  /-- The bytecode it writes. -/
  emission : Emission
  /-- The readable listing, which is for the log alone. -/
  listing : String
  deriving DecidableEq

/-- What the compiler makes of a kernel. -/
structure Compiled where
  /-- The compiled kernel. -/
  module : KernelModule
  /-- The grid the kernel has to be launched over, which need not be the
  declared one. -/
  grid : Grid
  deriving DecidableEq

/-- What the compiler is asked. -/
structure Request (P : Type) where
  /-- The program of the kernel. -/
  program : P
  /-- The shapes of all inputs and then of all outputs. -/
  shapes : List Shape
  /-- The grid as declared. -/
  mapping : GridMapping
  /-- The name of the kernel. -/
  name : String
  /-- The platform to compile for. -/
  platform : Platform
  deriving DecidableEq

/-- A compiler of programs `P` with a memory `σ`. -/
abbrev Compiler (σ P : Type) :=
  Request P → σ → Except LoweringError Compiled × σ

/-- The same compiler, which also keeps the list of its requests, oldest first. -/
def Compiler.recording {σ P : Type} (compiler : Compiler σ P) :
    Compiler (σ × List (Request P)) P :=
  fun request (memory, requests) =>
    let (answer, memory) := compiler request memory
    (answer, memory, requests ++ [request])

end KernelLaunch
