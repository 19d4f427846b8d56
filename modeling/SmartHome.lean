import SmartHome.Machine.Trace
import SmartHome.Proofs.FactoryReset
import SmartHome.Proofs.Dimmer
import SmartHome.Proofs.Leds
import SmartHome.Proofs.Outcomes
import SmartHome.Proofs.Presses
import SmartHome.Proofs.SixSeconds
import SmartHome.Proofs.Recovery
import SmartHome.Proofs.Redelivery
import SmartHome.Proofs.Delivery
import SmartHome.Proofs.Ownership
import SmartHome.Proofs.Flows
import SmartHome.Proofs.Wiring
import SmartHome.Proofs.Regulation
import SmartHome.Proofs.Export
import SmartHome.Proofs.Tracking
import SmartHome.Proofs.TableLog
import SmartHome.Proofs.SingleRadiator
import SmartHome.Proofs.Signals
import SmartHome.Proofs.MultiPress
import SmartHome.Proofs.Requests
import SmartHome.Proofs.Devices
import SmartHome.Proofs.Shell
import SmartHome.Proofs.HenleyRest
import SmartHome.Proofs.Rounds
import SmartHome.Proofs.Firmware
import SmartHome.Proofs.Holds
import SmartHome.Proofs.StandardRest
import SmartHome.Proofs.Pins
import SmartHome.Proofs.Energyflow
import SmartHome.Proofs.Days
import SmartHome.Proofs.Endless
import SmartHome.Proofs.Leaks
import SmartHome.Proofs.Windows
import SmartHome.Proofs.Downloads
