import SqlTree.Proofs.Arithmetic
import SqlTree.Proofs.Brackets
import SqlTree.Proofs.Conjunction
import SqlTree.Proofs.Declaration
import SqlTree.Proofs.Frame
import SqlTree.Proofs.GroupConcat
import SqlTree.Proofs.Guards
import SqlTree.Proofs.Inlining
import SqlTree.Proofs.Insertion
import SqlTree.Proofs.Noninterference
import SqlTree.Proofs.Numbering
import SqlTree.Proofs.Operators
import SqlTree.Proofs.Reading.Literal
import SqlTree.Proofs.ReservedWord
import SqlTree.Proofs.UnionTree
