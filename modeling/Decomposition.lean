import Decomposition.Formulation.EntityTest
import Decomposition.Formulation.Summary
import Decomposition.Session.Elements
import Decomposition.Session.Relations
import Decomposition.Session.Solving
import Decomposition.Settings.Folder
import Decomposition.View.Formulation
import Decomposition.View.Logging
import Decomposition.View.Registry
import Decomposition.View.Snapshot
import Decomposition.View.Solver
import Decomposition.Proofs.OrderedMap
import Decomposition.Proofs.Relation.Consistency
import Decomposition.Proofs.OrderedMap.Sums
import Decomposition.Proofs.Relation.Histories
import Decomposition.Proofs.Relation.Registration
import Decomposition.Proofs.Relation.Extraction
import Decomposition.Proofs.Relation.Restriction
import Decomposition.Proofs.Entity
import Decomposition.Proofs.Formulation.Operation
import Decomposition.Proofs.Store
import Decomposition.Proofs.Formulation.Change
import Decomposition.Proofs.Formulation.Soundness
import Decomposition.Proofs.Relation.Products
import Decomposition.Proofs.Snapshot.Coupling
import Decomposition.Proofs.Snapshot.ReducedCosts
import Decomposition.Proofs.Number.Exact
import Decomposition.Proofs.Relation.RationalProducts
import Decomposition.Proofs.Snapshot.Lagrangian
import Decomposition.Proofs.Snapshot.Validity
import Decomposition.Proofs.Snapshot.Subgradient
import Decomposition.Proofs.Solver.Highs
import Decomposition.Proofs.Number.Unpacked
import Decomposition.Proofs.Solver.LinearProgram
import Decomposition.Proofs.Solver.Cplex
import Decomposition.Proofs.Solver.Agreement
import Decomposition.Proofs.Solver.ReadBack
import Decomposition.Proofs.Relation.Merging
import Decomposition.Proofs.Registry.Operation
import Decomposition.Proofs.Formulation.Clone
import Decomposition.Proofs.Registry.Book
import Decomposition.Proofs.Registry.Lineage
import Decomposition.Proofs.Formulation.Records
import Decomposition.Proofs.Formulation.Undo
import Decomposition.Proofs.Formulation.BestSolutions
import Decomposition.Proofs.Formulation.Frame
import Decomposition.Proofs.Registry.Freshness
import Decomposition.Proofs.Number.Comparison
import Decomposition.Proofs.Formulation.UnitBounds
import Decomposition.Proofs.Solver.BinaryColumns
import Decomposition.Proofs.Formulation.CloneMarks
import Decomposition.Proofs.Formulation.CloneOrder
import Decomposition.Proofs.Relation.Reachability
import Decomposition.Proofs.Relation.Replacement
import Decomposition.Proofs.Relation.Selection
import Decomposition.Proofs.Registry.Ancestry
import Decomposition.Proofs.Number.Words
import Decomposition.Proofs.Number.Rounding
import Decomposition.Proofs.Number.Shortest
import Decomposition.Proofs.Text.Lines
import Decomposition.Proofs.Number.Digits
import Decomposition.Proofs.Number.Written
import Decomposition.Proofs.Number.Text
import Decomposition.Proofs.Files.Tree
import Decomposition.Proofs.Settings.File
import Decomposition.Proofs.Settings.Folder
import Decomposition.Proofs.Relation.Adjoint
import Decomposition.Proofs.Relation.Table
import Decomposition.Proofs.Relation.Copy
import Decomposition.Proofs.Relation.Marks
import Decomposition.Proofs.Relation.Equality
import Decomposition.Proofs.Formulation.Additions
import Decomposition.Proofs.Formulation.Batches
import Decomposition.Proofs.Solver.Refusals
import Decomposition.Proofs.Formulation.HandedOut
import Decomposition.Proofs.Store.Listing
import Decomposition.Proofs.Logging.Setups
import Decomposition.Proofs.Relation.Frozen
import Decomposition.Proofs.Solver.DualBound
