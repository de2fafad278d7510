import ValueObject.Main
import ValueObject.Proofs.GeneratedLayout
import ValueObject.Proofs.Verdict
import ValueObject.Proofs.NameCapture
import ValueObject.Proofs.MemberNames
import ValueObject.Proofs.FieldListing
import ValueObject.Proofs.ImplementedCapabilities
import ValueObject.Proofs.Rearrangement
import ValueObject.Proofs.Respelling
import ValueObject.Proofs.Delivery
import ValueObject.Proofs.PredicateGuard
import ValueObject.Proofs.Command.Agreement
import ValueObject.Proofs.Format.RoundTrip
import ValueObject.Proofs.AttributeText
import ValueObject.Proofs.NamespaceLookup
import ValueObject.Proofs.GrowingDeclaration
import ValueObject.Proofs.RepeatedInterface
import ValueObject.Proofs.TextParsing
import ValueObject.Proofs.FieldFaults
import ValueObject.Proofs.NormalSpelling
import ValueObject.Proofs.ManifestFaults
import ValueObject.Proofs.SettingsFaults
import ValueObject.Proofs.Format.Spellings
import ValueObject.Proofs.SetOperations
import ValueObject.Proofs.OptionBits
