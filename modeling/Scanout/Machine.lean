/-
The machine that everything runs on.

* `Machine`: what a machine tells of itself: the size of its pages.
-/
namespace Scanout

/-- A machine, of which the size of a page of memory is known. -/
class Machine where
  pageSize : Nat
  pageSize_pos : 0 < pageSize

/-- A machine that tells nothing else has pages of four kilobytes. -/
instance (priority := low) Machine.usual : Machine := ⟨4096, by decide⟩

end Scanout
