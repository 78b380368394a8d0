import RtmpMessages.RoundTrip
