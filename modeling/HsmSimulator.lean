import HsmSimulator.Core.Access
import HsmSimulator.Core.Constants
import HsmSimulator.Core.Environment
import HsmSimulator.Core.Files
import HsmSimulator.Core.Integers
import HsmSimulator.Core.Paths
import HsmSimulator.Core.Response
import HsmSimulator.Core.Runtime
import HsmSimulator.Core.Utilities
import HsmSimulator.Crypto.Creation
import HsmSimulator.Crypto.Derivation
import HsmSimulator.Crypto.KeyGeneration
import HsmSimulator.Crypto.Mechanisms
import HsmSimulator.Crypto.Signature
import HsmSimulator.Crypto.Storing
import HsmSimulator.Crypto.Wrapping
import HsmSimulator.Library.Blocks
import HsmSimulator.Library.Checks
import HsmSimulator.Library.Erasure
import HsmSimulator.Library.Formats
import HsmSimulator.Library.Locking
import HsmSimulator.Library.OrderedMap
import HsmSimulator.Library.Paging
import HsmSimulator.Library.Runs
import HsmSimulator.Library.Traces
import HsmSimulator.Objects.AttributeReads
import HsmSimulator.Objects.Attributes
import HsmSimulator.Objects.Correctness
import HsmSimulator.Objects.Objects
import HsmSimulator.Objects.Policy
import HsmSimulator.Objects.Template
import HsmSimulator.Objects.Validation
import HsmSimulator.Pkcs11.AcceptedPins
import HsmSimulator.Pkcs11.AllOrNothing
import HsmSimulator.Pkcs11.AttributeUpdates
import HsmSimulator.Pkcs11.Authorisation
import HsmSimulator.Pkcs11.Containment
import HsmSimulator.Pkcs11.CreationCalls
import HsmSimulator.Pkcs11.DefaultIds
import HsmSimulator.Pkcs11.DerivedKeys
import HsmSimulator.Pkcs11.Destruction
import HsmSimulator.Pkcs11.EcdsaFormats
import HsmSimulator.Pkcs11.Effects
import HsmSimulator.Pkcs11.EntryPoints
import HsmSimulator.Pkcs11.Handles
import HsmSimulator.Pkcs11.Initialization
import HsmSimulator.Pkcs11.Invisibility
import HsmSimulator.Pkcs11.Isolation
import HsmSimulator.Pkcs11.Lengths
import HsmSimulator.Pkcs11.Login
import HsmSimulator.Pkcs11.Mirrors
import HsmSimulator.Pkcs11.Operations
import HsmSimulator.Pkcs11.PathEffects
import HsmSimulator.Pkcs11.Pins
import HsmSimulator.Pkcs11.PolicyRecords
import HsmSimulator.Pkcs11.Protections
import HsmSimulator.Pkcs11.Registry
import HsmSimulator.Pkcs11.Restart
import HsmSimulator.Pkcs11.Searches
import HsmSimulator.Pkcs11.Sessions
import HsmSimulator.Pkcs11.SignatureCalls
import HsmSimulator.Pkcs11.SignatureData
import HsmSimulator.Pkcs11.SlotChanges
import HsmSimulator.Pkcs11.SlotPlaces
import HsmSimulator.Pkcs11.Standing
import HsmSimulator.Pkcs11.TemplateOrder
import HsmSimulator.Pkcs11.Templates
import HsmSimulator.Pkcs11.Token
import HsmSimulator.Pkcs11.TokenEffects
import HsmSimulator.Pkcs11.TokenFiles
import HsmSimulator.Pkcs11.TokenPolicies
import HsmSimulator.Pkcs11.UnreadFiles
import HsmSimulator.Pkcs11.ViewCalls
import HsmSimulator.Pkcs11.Views
import HsmSimulator.Pkcs11.WellFormed
import HsmSimulator.Pkcs11.Whereabouts
import HsmSimulator.Pkcs11.WrappedKeys
import HsmSimulator.Storage.Codec
import HsmSimulator.Storage.Discovery
import HsmSimulator.Storage.Hexadecimal
import HsmSimulator.Storage.KeyStore
import HsmSimulator.Storage.Loading
import HsmSimulator.Storage.Metadata
import HsmSimulator.Storage.PinFiles
import HsmSimulator.Storage.Records
import HsmSimulator.Storage.Rediscovery
import HsmSimulator.Storage.Reloading
import HsmSimulator.Storage.SlotDiscovery
import HsmSimulator.Storage.SlotNames
import HsmSimulator.Storage.Slots
import HsmSimulator.System.Buffers
import HsmSimulator.System.Bystanders
import HsmSimulator.System.Crashes
import HsmSimulator.System.Creations
import HsmSimulator.System.Intruders
import HsmSimulator.System.Ledger
import HsmSimulator.System.Locked
import HsmSimulator.System.Multipart
import HsmSimulator.System.Privacy
import HsmSimulator.System.Recovery
import HsmSimulator.System.Remains
import HsmSimulator.System.Secrets
import HsmSimulator.System.Signatures
import HsmSimulator.System.Startup
import HsmSimulator.System.Threads
