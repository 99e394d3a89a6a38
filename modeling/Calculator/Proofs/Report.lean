import Calculator.Proofs.Log.Limits
import Calculator.Proofs.Log.Record
import Calculator.Proofs.Text.Quotation
import Calculator.Report

namespace Calculator

open Calculator.Filter (InForce)

namespace Report

variable {settings : Settings} {environment : Option Text} {window : Window} {t path : Text} {limit : Limit}

/-- Accepted arguments are reported on as their settings are. -/
theorem ofArguments_eq {arguments : List Text} (environment : Option Text) (window : Window)
    (accepted : Settings.ofArguments arguments = .ok settings) :
    ofArguments arguments environment window = .ok (ofSettings settings environment window) := by
  rw [ofArguments, accepted]
  rfl

end Report

end Calculator
