import ChangeReview.Config
import ChangeReview.Finding

/-!
# Threads that scan files

The threads of a machine are given from outside. They come in pools: one that all runs share, and
pools of a wished number of threads that may be set up or refused. A pool does one job for each of
many files, at any time and on any of its threads, and collects the results by position.
-/

namespace ChangeReview.Scan

/-- A pool of threads, with its parallel map over files. -/
structure Pool where
  map : (job : SourceFile → FileAnalysis) → List SourceFile → List FileAnalysis
  /-- Whatever thread does a file and whenever it is done, the result stands where the file does. -/
  collects : ∀ (job : SourceFile → FileAnalysis) (files : List SourceFile) (i : Nat),
    (map job files)[i]? = files[i]?.map job

namespace Pool

/-- However a pool goes about it, its results are those of doing the files one by one. -/
theorem map_eq (pool : Pool) (job : SourceFile → FileAnalysis) (files : List SourceFile) :
    pool.map job files = files.map job := by
  apply List.ext_getElem?
  intro i
  rw [pool.collects, List.getElem?_map]

/-- Two threads that do one half of the files each. -/
def halves : Pool where
  map job files :=
    (files.take (files.length / 2)).map job ++ (files.drop (files.length / 2)).map job
  collects job files i := by rw [← List.map_append, List.take_append_drop, List.getElem?_map]

end Pool

/-- The threads of a machine. -/
structure Threads where
  /-- The pool that is used unless a run sets up its own. -/
  shared : Pool
  /-- How many threads the shared pool has. -/
  count : Nat
  /-- Set up a pool of some number of threads, or tell why there is none. -/
  build : Concurrency → Except String Pool

namespace Threads

/-- A machine on which every pool does the files in two halves. -/
def inHalves (count : Nat) : Threads := ⟨.halves, count, fun _ ↦ .ok .halves⟩

/-- How many files are scanned at once. -/
def workers (threads : Threads) (c : ParallelConfig) : Nat :=
  match c.effective with
  | .workers count => count
  | .machine => max threads.count 1

/-- The pool of its own that a run gets when it bounds the number of its threads. -/
def dedicated? (threads : Threads) (c : ParallelConfig) : Option (Except String Pool) :=
  c.pool.map threads.build

end Threads

end ChangeReview.Scan
