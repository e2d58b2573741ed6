import AppletGateway.Client.Basic

/-!
# The calls of a client

Every call that a client offers, with its arguments, and what each answers. The calls whose names
end in `Negotiated` and the provisioning messages of the first version make their retry by
themselves.
-/

namespace AppletGateway

/-- A call with its arguments. -/
inductive Client.Call
  | init
  | deinit
  | version
  | doFwUpdate
  | startProvisioning (app : String)
  | endProvisioning (app : String) (handle capacity : UInt32)
  | endProvisioningNegotiated (app : String) (handle : UInt32)
  | sendData (app : String) (handle dataType : UInt32) (data : Bytes)
  | receiveData (app : String) (handle dataType capacity : UInt32)
  | receiveDataNegotiated (app : String) (handle dataType : UInt32)
  | sendAndReceive (app : String) (handle dataType : UInt32) (data : Bytes) (capacity : UInt32)
  | sendAndReceiveNegotiated (app : String) (handle dataType : UInt32) (data : Bytes)
  | processSvpMessage (app : String) (handle : UInt32) (data : Bytes)
  | getSvpMessage (app : String) (handle : UInt32)
  | capabilities (app : String) (capType capacity : UInt32)
  | capabilitiesNegotiated (app : String) (capType : UInt32)
  | otpCapabilities (app : String) (capType : UInt32)
  | install (app source : String)
  | installOtps (app source : String)
  | uninstall (app : String)
  | uninstallOtps (app : String)
  | getOtp (app : String) (request : OtpRequest)
  | getOtpNegotiated (app : String) (request : OtpRequest)
  | otpsStatus (app : String) (handle statusType : UInt32)
  | appInstance (app : String)
  | registerEvents (app : String) (handler : Handler)
  | unregisterEvents (app : String)
  | startInstance (app : String) (handler : Option Handler)
  | stopInstance (token : UInt32)
  deriving DecidableEq, Inhabited

/-- What a successful call answers. -/
inductive Client.Answer
  | done
  | word (value : UInt32)
  | bytes (data : Bytes)
  | data (out : Negotiated Bytes)
  | otp (out : Otp)
  | negotiatedOtp (out : Negotiated Otp)
  | instanceToken (token flags : UInt32)
  deriving DecidableEq

namespace Client

variable {ρ : Type} [Remote ρ]

/-- Makes a call that only gets done. -/
def performUnit (step : Run ρ Unit) : Run ρ Answer := do
  step
  return .done

/-- Makes a call. -/
def perform : Call → Run ρ Answer
  | .init => performUnit (callUnit .init)
  | .deinit => performUnit (callThen .deinit unbindAll)
  | .version => return .word (← callValue .getVersion)
  | .doFwUpdate => performUnit (callUnit .doFwUpdate)
  | .startProvisioning app => return .word (← callValue (.startProvisioning app))
  | .endProvisioning app handle capacity =>
    return .data (← callData (.endProvisioning app handle capacity))
  | .endProvisioningNegotiated app handle =>
    return .bytes (← negotiateData fun capacity => .endProvisioning app handle capacity)
  | .sendData app handle dataType data =>
    performUnit (callUnit (.sendData app handle dataType data))
  | .receiveData app handle dataType capacity =>
    return .data (← callData (.receiveData app handle dataType capacity))
  | .receiveDataNegotiated app handle dataType =>
    return .bytes (← negotiateData fun capacity => .receiveData app handle dataType capacity)
  | .sendAndReceive app handle dataType data capacity =>
    return .data (← callData (.sendAndReceiveData app handle dataType data capacity))
  | .sendAndReceiveNegotiated app handle dataType data =>
    return .bytes (← negotiateData fun capacity =>
      .sendAndReceiveData app handle dataType data capacity)
  | .processSvpMessage app handle data =>
    performUnit (callUnit (.processSvpMessage app handle data))
  | .getSvpMessage app handle =>
    return .bytes (← negotiateData fun capacity => .getSvpMessage app handle capacity)
  | .capabilities app capType capacity =>
    return .data (← callData (.getCapabilities app capType capacity))
  | .capabilitiesNegotiated app capType =>
    return .bytes (← negotiateData fun capacity => .getCapabilities app capType capacity)
  | .otpCapabilities app capType =>
    return .bytes (← negotiateData fun capacity => .getOtpCapabilities app capType capacity)
  | .install app source => performUnit (callUnit (.install app source))
  | .installOtps app source => performUnit (callUnit (.installOtps app source))
  | .uninstall app => performUnit (callThen (.uninstall app) (unbind app))
  | .uninstallOtps app => performUnit (callThen (.uninstallOtps app) (unbind app))
  | .getOtp app request => return .negotiatedOtp (← getOtp app request)
  | .getOtpNegotiated app request => return .otp (← getOtpNegotiated app request)
  | .otpsStatus app handle statusType =>
    return .word (← callValue (.getOtpsStatus app handle statusType))
  | .appInstance app => do
    let (token, flags) ← appInstance app
    return .instanceToken token flags
  | .registerEvents app h => performUnit (registerEvents app h)
  | .unregisterEvents app => performUnit (unregisterEvents app)
  | .startInstance app handler => return .word (← startInstance app handler)
  | .stopInstance token => performUnit (stopInstance token)

end Client

end AppletGateway
