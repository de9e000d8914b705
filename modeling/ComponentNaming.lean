import ComponentNaming.Naming
import ComponentNaming.Proofs.Declared
import ComponentNaming.Proofs.Matching
import ComponentNaming.Proofs.Passes
import ComponentNaming.Proofs.Steps
import ComponentNaming.Proofs.Chains
import ComponentNaming.Proofs.Erasure
import ComponentNaming.Proofs.Capture
import ComponentNaming.Proofs.Receivers
import ComponentNaming.Proofs.Recasting
import ComponentNaming.Proofs.Invariance
import ComponentNaming.Proofs.Grammar
import ComponentNaming.Proofs.Lexemes
import ComponentNaming.Proofs.Spelling
import ComponentNaming.Proofs.Values
import ComponentNaming.Proofs.Listing
import ComponentNaming.Proofs.OptionsLanguage
import ComponentNaming.Proofs.Accounting
import ComponentNaming.Proofs.Routes
import ComponentNaming.Proofs.Shapes
import ComponentNaming.Proofs.ByteOrder
import ComponentNaming.Proofs.Members
import ComponentNaming.Proofs.Inside
