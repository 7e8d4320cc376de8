/-!
# Page-size classes

A block of a GPU address space can be set aside for one page size. A block without a class serves
every request, and a request without a class takes every block.
-/
namespace GpuSched

/-- The page size that a block is set aside for, or that a request asks for. -/
inductive PageClass where
  | any
  | small
  | big
  deriving DecidableEq, Repr, Inhabited

/-- Whether a block of one class serves a request of another. -/
def PageClass.accepts (held wanted : PageClass) : Bool :=
  held = .any || wanted = .any || held = wanted

end GpuSched
