import Wuchang.CellDecoder
import Wuchang.CellSession
import Wuchang.CellSyntax
import Wuchang.CellEncoder
import Wuchang.CellGate
import Wuchang.CellMotion
import Wuchang.AdiAcceptance
import Wuchang.AdiDelivery
import Wuchang.AdiRoundTrip
import Wuchang.AdiReplication
import Wuchang.AdiAtomicity
import Wuchang.AdiRecovery
import Wuchang.NativeSpiral
import Wuchang.AdaptiveRuntime
import Wuchang.CanonicalVerifier
import Wuchang.CapabilityContext
import Wuchang.CapabilityProjection
import Wuchang.WorkLedgerFile
import Wuchang.ActionLedger
import Wuchang.ActionLedgerRun
import Wuchang.IntentContinuity
import Wuchang.EvidenceLedger
import Wuchang.TransmissionAudit
import Wuchang.CoordinateTransition
import Wuchang.CoordinateReplay
import Wuchang.PromotionForeign
import Wuchang.SecondaryCloud
import Wuchang.JsonSchema
import Wuchang.MenuBatch
import Wuchang.MemberAction
import Wuchang.FinalStateGate
import Wuchang.EndpointHandshake
import Wuchang.AdiSearch
import Wuchang.AdiBinding
import Wuchang.CellBundle
import Wuchang.CellLut
import Wuchang.CellTemplate
import Wuchang.CellPruning
import Wuchang.GstReconstruction
import Wuchang.AdiNormalForm
import Wuchang.LegacyChain
import Wuchang.RouteEvidence
import Wuchang.Buckets
import Wuchang.IdentityResolver
import Wuchang.WorkLedgerRun
import Wuchang.WorkLedgerSeal
import Wuchang.Worklist
import Wuchang.PyFloatRead
import Wuchang.True8DCommit
import Wuchang.SecondaryVerification
import Wuchang.TaskStateSelection
import Wuchang.True8DEquivalence
import Wuchang.VoucherCheckout
import Wuchang.MemberReplay
import Wuchang.CoreEncoding
import Wuchang.ContentHash
import Wuchang.QuickclickMenu
import Wuchang.CafePosInterop
import Wuchang.ScopePaths
import Wuchang.DriftAgreement
import Wuchang.PosQueues
import Wuchang.PosConfirmation
import Wuchang.Vocabulary
import Wuchang.PyCase
import Wuchang.VoiceOrder
import Wuchang.CheckedClosure
import Wuchang.FieldPacket
import Wuchang.MemorySelection
import Wuchang.Interruptions
import Wuchang.PyBase64
import Wuchang.MobileApproval
import Wuchang.MobileApprovalCrash
import Wuchang.ProgressChain
import Wuchang.ReceiveCandidate
import Wuchang.AuthorityDualSchema
import Wuchang.Grouping
import Wuchang.ModelSources
import Wuchang.ModelSourceMerge
import Wuchang.ModelSourcePrivacy
