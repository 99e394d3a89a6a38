import Calculator.Main
import Calculator.Proofs.Calculation.Whole
import Calculator.Proofs.Expression.Defined
import Calculator.Proofs.Expression.Folding
import Calculator.Proofs.Expression.Operation
import Calculator.Proofs.Expression.Twins
import Calculator.Proofs.Key.Spelling
import Calculator.Proofs.Panel.Steps
import Calculator.Proofs.Window
