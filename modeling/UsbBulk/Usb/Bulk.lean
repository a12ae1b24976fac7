import UsbBulk.Usb.Blocks

/-!
# Bulk endpoints without DMA (`tn_usb_ep.c`)

The two interrupt routines of the bulk endpoints.  The transmitter and the receiver
take and give whole packets; everything else that the routines write to the
controller selects and clears.
-/

namespace UsbBulk

/-- `EP_INFO`, without the number of the endpoint. -/
structure EpInfo where
  queue : DqueId
  memPool : FmpId

/-- `tn_usb_ep_rx_int`, with the packet in the receiver, if there is one.  The
second component says whether it has been read out of it.  What
`tn_queue_isend_polling` returns is not looked at. -/
def tnUsbEpRxInt (fuel : Nat) (ei : EpInfo) (packet : Option UsbPacket)
    (k : Kernel) : Option (Kernel × Bool) :=
  match packet with
  | none => some (k, false)
  | some packet => do
      let (k, reply) ← tnFmemGetIpolling k (some ei.memPool) true
      if reply.rc = some .noErr then do
        let ptr ← reply.value
        let k := k.setMem (writeWords k.mem ptr packet.words)
        let (k, _) ← tnQueueIsendPolling fuel k (some ei.queue) ptr
        some (k, true)
      else some (k, false)

/-- `tn_usb_ep_tx_int`, with the payload that is written to the transmitter. -/
def tnUsbEpTxInt (fuel : Nat) (ei : EpInfo) (k : Kernel) :
    Option (Kernel × Option (List Word)) := do
  let (k, reply) ← tnQueueIreceive fuel k (some ei.queue) true
  if reply.rc = some .noErr then do
    let ptr ← reply.value
    let payload := payloadAt k.mem ptr
    let (k, _) ← tnFmemIrelease fuel k (some ei.memPool) ptr
    some (k, some payload)
  else some (k, none)

end UsbBulk
