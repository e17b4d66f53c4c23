import SignIn.Callback.Echo
import SignIn.DebugText
import SignIn.Envelope
import SignIn.Operation.Run
import SignIn.Proofs.Cipher.Sealing
import SignIn.Proofs.Base64
import SignIn.Proofs.Envelope.Compact
import SignIn.Proofs.Envelope.Decryption
import SignIn.Proofs.Answer.Reading
import SignIn.Proofs.Callback.LastSegment
import SignIn.Proofs.Callback.Origin
import SignIn.Proofs.Operation.Calls
import SignIn.Proofs.Operation.Completion
import SignIn.Proofs.Operation.ResumeFlow
import SignIn.Proofs.Operation.ParentLinks
import SignIn.Proofs.Operation.StartCode
import SignIn.Proofs.Answer.Contents
import SignIn.Proofs.Disclosure
import SignIn.Proofs.Flight.LookupHistory
import SignIn.Proofs.Flight.Sources
import SignIn.Proofs.KeySeparation
import SignIn.Proofs.Answer.Dependence
import SignIn.Proofs.Callback.Wire
import SignIn.Proofs.FaultOrder
import SignIn.Proofs.KeyBlocks
import SignIn.Proofs.Envelope.Faults
import SignIn.Proofs.Callback.Modes
import SignIn.Proofs.Callback.PlusSigns
import SignIn.Proofs.Callback.Conditions
import SignIn.Proofs.Callback.Parameters
import SignIn.Proofs.Base64.Digits
import SignIn.Proofs.Callback.Echo
import SignIn.Proofs.Json.Decoder
import SignIn.Proofs.Documents
