import ConfigBinding.Config.Session
import ConfigBinding.Declaration.Structure
import ConfigBinding.Leaf.Catalog
import ConfigBinding.Main
import ConfigBinding.Proofs.Environment.Agreement
import ConfigBinding.Proofs.Schema.Bindings
import ConfigBinding.Proofs.Config.Building
import ConfigBinding.Proofs.Config.Loading
import ConfigBinding.Proofs.Config.Secrecy
import ConfigBinding.Proofs.Config.DescriptorSecrets
import ConfigBinding.Proofs.Schema.Keys
import ConfigBinding.Proofs.Config.GroupWalks
import ConfigBinding.Proofs.Config.Wrapping
import ConfigBinding.Proofs.Config.Lifecycle
import ConfigBinding.Proofs.Config.Walks
import ConfigBinding.Proofs.Config.DescriptorFaults
import ConfigBinding.Proofs.Descriptor.Layering
import ConfigBinding.Proofs.Environment.Edits
import ConfigBinding.Proofs.Config.DryRun
import ConfigBinding.Proofs.Resolution.Probing
import ConfigBinding.Proofs.Config.Probing
import ConfigBinding.Proofs.Kind.Integers
import ConfigBinding.Proofs.Duration.Rendering
import ConfigBinding.Proofs.Descriptor.Extraction
import ConfigBinding.Proofs.Leaf.Rendering
import ConfigBinding.Proofs.Kind.Lists
import ConfigBinding.Proofs.Kind.Maps
import ConfigBinding.Proofs.Config.SecretChecks
import ConfigBinding.Proofs.Config.SharedKeys
import ConfigBinding.Proofs.Resolution.Reports
import ConfigBinding.Proofs.Config.Reports
import ConfigBinding.Proofs.Declaration.Options
import ConfigBinding.Proofs.Declaration.Plans
import ConfigBinding.Proofs.Table.Layout
import ConfigBinding.Proofs.Config.Snapshots
import ConfigBinding.Proofs.TypeName.Shortening
import ConfigBinding.Proofs.Decimal.Notation
import ConfigBinding.Proofs.Descriptor.Numbers
import ConfigBinding.Proofs.Duration.Checked
import ConfigBinding.Proofs.Kind.Nesting
import ConfigBinding.Proofs.Leaf.HashOrder
