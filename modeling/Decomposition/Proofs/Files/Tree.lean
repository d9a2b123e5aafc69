import Decomposition.Files.Tree
import Decomposition.Proofs.OrderedMap

namespace Decomposition.FileTree

/-- A step is taken from a folder that exists. -/
theorem follow_cons_eq_ok {t : FileTree} {l target : Location} {s : PathStep}
    {rest : List PathStep} :
    t.follow l (s :: rest) = .ok target ↔ t.hasFile l = false ∧ t.hasFolder l = true ∧
      s.tooLong = false ∧ t.follow (l.step s) rest = .ok target := by
  rw [follow]
  cases t.hasFile l <;> cases t.hasFolder l <;> cases s.tooLong <;> simp

theorem place_eq_ok {t : FileTree} {p : FilePath} {l : Location} :
    t.place p = .ok l ↔
      p.impossible = false ∧ p.tooLong = false ∧ t.follow p.start p.steps = .ok l := by
  have found : (t.follow p.start p.steps).mapError Fault.file = .ok l ↔
      t.follow p.start p.steps = .ok l := by
    cases t.follow p.start p.steps with
    | error fault => constructor <;> intro same <;> cases same
    | ok other => constructor <;> intro same <;> cases same <;> rfl
  rw [place]
  cases p.impossible <;> cases p.tooLong <;> simp [found]

/-- The tree with a file at a location. -/
def withFile (t : FileTree) (l : Location) (content : String) : FileTree :=
  { t with files := t.files.insert l content }

section Writing
variable {t : FileTree} {l : Location} (content : String) {p : FilePath}

theorem hasFile_withFile (other : Location) :
    (t.withFile l content).hasFile other = (l == other || t.hasFile other) :=
  t.files.contains_insert l other content

/-- A file can be put wherever a path leads to no folder. -/
theorem put_of_free (place : t.place p = .ok l) (free : t.hasFolder l = false) :
    t.put p content = .ok (t.withFile l content) := by
  rw [put, place]
  change (if t.hasFolder l then _ else _) = _
  rw [free, if_neg Bool.false_ne_true, withFile]

variable (free : t.hasFolder l = false)
include free

/-- The places on the way are folders, so that the new file is none of them. -/
theorem follow_withFile {steps : List PathStep} {start target : Location}
    (leads : t.follow start steps = .ok target) :
    (t.withFile l content).follow start steps = .ok target := by
  induction steps generalizing start with
  | nil => exact leads
  | cons s rest ih =>
      obtain ⟨noFile, folder, short, later⟩ := follow_cons_eq_ok.1 leads
      have apart : (l == start) = false := beq_false_of_ne fun same => by
        rw [same, folder] at free
        cases free
      have noFileStill : (t.withFile l content).hasFile start = false := by
        rw [hasFile_withFile, apart, Bool.false_or, noFile]
      exact follow_cons_eq_ok.2 ⟨noFileStill, folder, short, ih later⟩

/-- What has been put there is read. -/
theorem read_withFile (place : t.place p = .ok l) :
    (t.withFile l content).read p = .ok (some content) := by
  obtain ⟨possible, short, leads⟩ := place_eq_ok.1 place
  have placeStill := place_eq_ok.2 ⟨possible, short, follow_withFile content free leads⟩
  have folder : (t.withFile l content).hasFolder l = false := free
  have found : (t.withFile l content).files.get? l = some content := by
    refine (t.files.get?_insert l l content).trans ?_
    rw [BEq.rfl, if_pos rfl]
  rw [read, placeStill]
  dsimp only
  rw [FileTree.content, folder, if_neg Bool.false_ne_true, found]

end Writing

end Decomposition.FileTree
