import TrustedServices.Attestation.ChallengeBuffer
import TrustedServices.Attestation.KeyManager
import TrustedServices.Attestation.SpoiledLogs
import TrustedServices.Attestation.TokenCompleteness
import TrustedServices.BlockStorage.Rpmb
import TrustedServices.BlockStorage.Transparency
import TrustedServices.Crypto.HashClone
import TrustedServices.Crypto.HashCoverage
import TrustedServices.Crypto.Responses
import TrustedServices.Fwu.MetadataParsing
import TrustedServices.Fwu.MetadataRecovery
import TrustedServices.LibSp.RoutingDiscipline
import TrustedServices.LibSp.WideMessages
import TrustedServices.Lua.Provider
import TrustedServices.Media.VolumeRefinement
import TrustedServices.PsaComms.ChannelRecovery
import TrustedServices.PsaComms.RseConfinement
import TrustedServices.PsaFwuM.StateMachine
import TrustedServices.Rpc.SessionProtocol
import TrustedServices.Rpmb.Authentication
import TrustedServices.Rpmb.FrontendLoops
import TrustedServices.Rpmb.InPlace
import TrustedServices.SecureStorage.IpcBackend
import TrustedServices.SmmVariable.CheckConstraints
import TrustedServices.SmmVariable.DescriptorStripping
import TrustedServices.SmmVariable.FailClosed
import TrustedServices.SmmVariable.IndexIdentity
import TrustedServices.SmmVariable.IndexRoundTrip
import TrustedServices.SmmVariable.RuntimeAccess
import TrustedServices.SmmVariable.SignatureWalk
import TrustedServices.Tpm.StartStatus
import TrustedServices.TsRpc.EndpointShutdown
import TrustedServices.TsRpc.LinuxCaller
import TrustedServices.TsRpc.MemoryRetrieve
import TrustedServices.TsRpc.SessionLifeCycle
